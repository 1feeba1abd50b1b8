import QuorumRate.Transport.Reply
/-! Replies recorded as text, one a line: the name of a venue, a status, and the body, with a space
between them. A line of another form is skipped, and the last line of a venue counts. -/
namespace QuorumRate.Network

def splitSpace (line : List Char) : List Char × List Char :=
  (line.takeWhile (· != ' '), (line.dropWhile (· != ' ')).drop 1)

def recorded? (line : List Char) : Option (Venue × Reply) := do
  let (name, rest) := splitSpace line
  let (status, body) := splitSpace rest
  let venue ← Venue.ofName? (String.ofList name)
  let status ← (String.ofList status).toNat?
  return (venue, .response status (String.ofList body).toUTF8.toList none)

def ofRecording (lines : List String) : Network :=
  (lines.filterMap fun line => recorded? line.toList).foldl (fun net (v, reply) => net.set v reply)
    silent

end QuorumRate.Network
