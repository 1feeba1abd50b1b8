import QuorumRate.Text.Quoted
/-! Addresses of resources, taken apart. An address is kept in normal form: its parts are escaped
and its scheme and host are in lower case, so that two spellings of one address have one text. All
that is said of addresses here is what httpx 0.28.1 makes of them. -/
namespace QuorumRate

/-- An address. A part that is left out is empty; a query or a fragment can be empty and still
be there. -/
structure Url where
  scheme : String
  userinfo : String
  host : String
  port : Option Int
  path : String
  query : Option String
  fragment : Option String
  deriving DecidableEq, Repr

namespace Url

def shownHost (u : Url) : String :=
  if u.host.toList.contains ':' then "[" ++ u.host ++ "]" else u.host

def authority (u : Url) : String :=
  (if u.userinfo = "" then "" else u.userinfo ++ "@") ++ u.shownHost ++
    match u.port with
    | none => ""
    | some n => ":" ++ toString n

def text (u : Url) : String :=
  (if u.scheme = "" then "" else u.scheme ++ ":") ++
    (if u.authority = "" then "" else "//" ++ u.authority) ++ u.path ++
    (match u.query with | none => "" | some q => "?" ++ q) ++
    (match u.fragment with | none => "" | some f => "#" ++ f)

def maskPassword (userinfo : String) : String :=
  let name := userinfo.toList.takeWhile (· != ':')
  if userinfo.toList.contains ':' then String.ofList name ++ ":[secure]" else userinfo

def shown (u : Url) : String :=
  "URL(" ++ quoted ({ u with userinfo := maskPassword u.userinfo }).text ++ ")"

def isAbsolute (u : Url) : Bool := u.scheme != "" && u.host != ""

end Url
end QuorumRate
