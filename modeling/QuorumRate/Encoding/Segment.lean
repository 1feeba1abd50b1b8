import QuorumRate.Text.CodePoint
/-! Octets cut into segments: each is one code point or one stretch that encodes none. An encoding
is given by how it cuts the first segment off; the rest follows for all encodings alike. -/
namespace QuorumRate

abbrev Octets := List UInt8

namespace Encoding

inductive Reason
  | invalidStart
  | invalidContinuation
  | unexpectedEnd
  | truncated
  | outOfRange
  deriving DecidableEq, Repr

def Reason.message : Reason → String
  | .invalidStart => "invalid start byte"
  | .invalidContinuation => "invalid continuation byte"
  | .unexpectedEnd => "unexpected end of data"
  | .truncated => "truncated data"
  | .outOfRange => "code point not in range(0x110000)"

inductive Segment
  | character (c : CodePoint) (length : Nat)
  | invalid (reason : Reason) (first : UInt8) (length : Nat)
  deriving DecidableEq, Repr

def Segment.length : Segment → Nat
  | .character _ n => n
  | .invalid _ _ n => n

abbrev Cutter := UInt8 → Octets → Segment

def segmentsOnto (cut : Cutter) (found : List Segment) : Nat → Octets → List Segment
  | _, [] => found.reverse
  | skip + 1, _ :: rest => segmentsOnto cut found skip rest
  | 0, a :: rest =>
    let segment := cut a rest
    segmentsOnto cut (segment :: found) (segment.length - 1) rest

def segments (cut : Cutter) (octets : Octets) : List Segment := segmentsOnto cut [] 0 octets

structure Stop where
  reason : Reason
  first : UInt8
  offset : Nat
  length : Nat
  deriving DecidableEq, Repr

def textOnto (offset : Nat) (found : Text) : List Segment → Except Stop Text
  | [] => .ok found.reverse
  | .character c n :: rest => textOnto (offset + n) (c :: found) rest
  | .invalid reason first n :: _ => .error ⟨reason, first, offset, n⟩

def decode (cut : Cutter) (offset : Nat) (octets : Octets) : Except Stop Text :=
  textOnto offset [] (segments cut octets)

def decodeLossy (cut : Cutter) (octets : Octets) : Text :=
  (segments cut octets).map fun
    | .character c _ => c
    | .invalid .. => .replacement

end Encoding
end QuorumRate
