import QuorumRate.Transport.Reply
import QuorumRate.Url.Reference
/-! The client that all venues share: sending one request, following redirects if it does, and
decoding what comes back. It treats redirects, locations and bodies as httpx 0.28.1 does. Contents
come to it without their codings, a body that a message shows is UTF-8 whatever its headers say, and
cookies are left out, as are all headers but a single location. -/
namespace QuorumRate

structure Client where
  follows : Bool
  isClosed : Bool
  deriving DecidableEq, Repr

namespace Client

def maxRedirects : Nat := 20

def maxShown : Nat := 200

def isRedirect (status : Int) : Bool := [301, 302, 303, 307, 308].contains status

def isSuccess (status : Int) : Bool := 200 ≤ status && status ≤ 299

structure Response where
  url : Url
  status : Int
  body : Octets

def Response.shownBody (r : Response) : String :=
  Text.toString ((Encoding.decodeLossy Encoding.Utf8.cut r.body).take maxShown)

def badLocation (fault : Url.Fault) : Failure :=
  .venue (.unreachable ("Invalid URL in location header: " ++ fault.message ++ "."))

def checkHost (url : Url) : Except Failure Unit :=
  (Url.hostFault? url.host).elim (.ok ()) fun fault => .error (.hostName fault)

/-- The text of a header: UTF-8, of which ASCII is a part, or else one code point for each octet. -/
def headerText (octets : Octets) : Text :=
  match Encoding.decode Encoding.Utf8.cut 0 octets with
  | .ok text => text
  | .error _ => octets.map fun octet => ⟨octet.toNat, Nat.lt_trans octet.toNat_lt (by decide)⟩

def target (here : Url) (location : String) : Except Failure Url := do
  let there ← (Url.ofText location).mapError badLocation
  if there.scheme != "" then checkHost there
  let url ← (here.redirect there).mapError .ofUrlFault
  checkHost url
  return url

def next? (here : Url) (status : Int) (location : Option Octets) : Except Failure (Option Url) :=
  match location with
  | none => .ok none
  | some location =>
    if isRedirect status then (target here (Text.toString (headerText location))).map some
    else .ok none

/-- Sends one request: the response, and the address to go on to if it redirects. A redirect that
leads nowhere is a failure even for a client that does not follow it. -/
def request (net : Network) (url : Url) : Attempt (Response × Option Url) :=
  .after ⟨["GET " ++ url.text], []⟩ <|
    match net.reply url with
    | .timeout text => .fail (.venue (.timeout text))
    | .broken text => .fail (.venue (.unreachable text))
    | .refused refusal text => .fail (.refused refusal text)
    | .unwritable place => .fail (.beyondAscii place)
    | .answer status body location =>
      .ofExcept ((next? url status location).map fun next => (⟨url, status, body⟩, next))

def follow (net : Network) : Nat → Url → Attempt Response
  | 0, url => do
    let (response, next) ← request net url
    if next.isSome then .fail (.venue (.unreachable "Exceeded maximum allowed redirects."))
    else .pure response
  | left + 1, url => do
    let (response, next) ← request net url
    match next with
    | none => .pure response
    | some next => follow net left next

def get (client : Client) (net : Network) (url : Url) : Attempt Response :=
  if client.isClosed then .fail .closed
  else if client.follows then follow net maxRedirects url
  else do return (← request net url).1

def decode (nesting : Nat) (r : Response) : Attempt Json :=
  if isSuccess r.status then
    match Json.ofBody nesting r.body with
    | .ok v => .pure v
    | .error (.text _ .unholdableNumber) => .fail (.arithmetic .invalidOperation)
    | .error fault => .fail (.venue (.content (.body r.url fault)))
  else
    .after
      (.ofRecord .debug
        ("HTTP GET " ++ r.url.text ++ " failed with status " ++ toString r.status ++ ": " ++
          r.shownBody))
      (.fail (.venue (.status r.status r.shownBody)))

def getJson (client : Client) (net : Network) (url : Url) : Attempt Json := do
  decode net.nesting (← client.get net url)

end Client
end QuorumRate
