import QuorumRate.Text.Quoted
/-! What can be wrong with the text of an address. -/
namespace QuorumRate.Url

inductive Section
  | authority
  | path
  | query
  | fragment
  deriving DecidableEq, Repr

def Section.name : Section → String
  | .authority => "authority"
  | .path => "path"
  | .query => "query"
  | .fragment => "fragment"

inductive Fault
  | tooLong
  | sectionTooLong (part : Section)
  | control (c : Char) (position : Nat)
  | fragmentControl (c : Char) (position : Nat)
  | port (text : String)
  | ipv4 (host : String)
  | ipv6 (host : String)
  | name (host : String)
  | rootlessPath
  | emptySegmentFirst
  | colonFirst
  deriving DecidableEq, Repr

def shownControl (c : Char) (position : Nat) : String :=
  ", " ++ quoted (String.ofList [c]) ++ " at position " ++ toString position ++ "."

def Fault.message : Fault → String
  | .tooLong => "URL too long"
  | .sectionTooLong part => "URL component '" ++ part.name ++ "' too long"
  | .control c position => "Invalid non-printable ASCII character in URL" ++ shownControl c position
  | .fragmentControl c position =>
    "Invalid non-printable ASCII character in URL fragment component" ++ shownControl c position
  | .port text => "Invalid port: " ++ quoted text
  | .ipv4 host => "Invalid IPv4 address: " ++ quoted host
  | .ipv6 host => "Invalid IPv6 address: " ++ quoted host
  | .name host => "Invalid IDNA hostname: " ++ quoted host
  | .rootlessPath => "For absolute URLs, path must be empty or begin with '/'"
  | .emptySegmentFirst => "Relative URLs cannot have a path starting with '//'"
  | .colonFirst => "Relative URLs cannot have a path starting with ':'"

end QuorumRate.Url
