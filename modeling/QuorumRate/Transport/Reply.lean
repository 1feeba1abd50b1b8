import QuorumRate.Attempt
import QuorumRate.Json.Reader
import QuorumRate.Venue.Basic
/-! What a session finds outside: the reply at each address, the order in which the venues finish,
and how deep a value may nest before the stack is full. An address has one reply while a rate is
asked for. Of the headers of a reply the location alone is kept, as the octets that it came in. -/
namespace QuorumRate

inductive Reply
  | answer (status : Int) (body : Octets) (location : Option Octets)
  | timeout (message : String)
  | broken (message : String)
  | refused (refusal : Refusal) (message : String)
  | unwritable (place : BeyondAscii)

namespace Reply

/-- A reply that a transport makes up from a text. It can write none but ASCII into a header. -/
def response (status : Int) (body : Octets) (location : Option String) : Reply :=
  match location with
  | none => .answer status body none
  | some location =>
    match BeyondAscii.of? (Text.ofString location) with
    | some place => .unwritable place
    | none => .answer status body (some ((Text.ofString location).flatMap Encoding.Utf8.encode))

def outOfService : Reply := .response 503 ("no response configured".toUTF8.toList) none

end Reply

structure Network where
  reply : Url → Reply
  finishing : List Venue
  allFinish : finishing.Perm Venue.all
  nesting : Nat
  deep : 202 ≤ nesting

namespace Network

def silent : Network where
  reply _ := .outOfService
  finishing := Venue.all
  allFinish := .refl _
  nesting := Json.usualNesting
  deep := by decide

def set (net : Network) (v : Venue) (reply : Reply) : Network :=
  { net with reply := fun url => if url.host = v.host then reply else net.reply url }

end Network
end QuorumRate
