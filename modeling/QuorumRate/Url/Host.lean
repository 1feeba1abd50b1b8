import QuorumRate.HostName.Encoded
import QuorumRate.Text.LowerCase
import QuorumRate.Url.Escape
import QuorumRate.Url.Fault
import QuorumRate.Url.IpAddress
/-! Hosts in normal form: numeric addresses as they are, names in lower case and in ASCII. -/
namespace QuorumRate.Url

def isBracketed (cs : List Char) : Bool := cs.head? = some '[' && cs.getLast? = some ']'

def readHost (host : List Char) : Except Fault String :=
  let whole := String.ofList host
  if looksLikeIpv4 host then
    if isIpv4 host then .ok whole else .error (.ipv4 whole)
  else if isBracketed host then
    let inner := (host.drop 1).dropLast
    if isIpv6 inner then .ok (String.ofList inner) else .error (.ipv6 whole)
  else if host.all (·.toNat < 128) then
    .ok (String.ofList (escape .host (host.map Char.toLower)))
  else
    match HostName.encode (Text.ofString whole).lowerCase with
    | .ok name => .ok (Text.toString name)
    | .error _ => .error (.name whole)

def hostFault? (host : String) : Option HostName.Fault :=
  let name := Text.ofString host
  if (name.dropWord? "xn--").isSome then
    match HostName.decode name with
    | .ok _ => none
    | .error fault => some fault
  else none

end QuorumRate.Url
