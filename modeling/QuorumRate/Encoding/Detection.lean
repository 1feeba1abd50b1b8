import QuorumRate.Encoding.Utf8
import QuorumRate.Encoding.Wide
/-! Which encoding a body is in: by its byte order mark, else by where its first octets are zero,
which tells since a JSON text starts with two characters of ASCII or is one of them. -/
namespace QuorumRate

inductive Encoding
  | utf8
  | utf16 (order : Encoding.ByteOrder)
  | utf32 (order : Encoding.ByteOrder)
  deriving DecidableEq, Repr

namespace Encoding

def name : Encoding → String
  | .utf8 => "utf-8"
  | .utf16 .little => "utf-16-le"
  | .utf16 .big => "utf-16-be"
  | .utf32 .little => "utf-32-le"
  | .utf32 .big => "utf-32-be"

def cutter : Encoding → Cutter
  | .utf8 => Utf8.cutWithSurrogates
  | .utf16 order => Utf16.cut order
  | .utf32 order => Utf32.cut order

def marks : List (Octets × Encoding) := [
  ([0x00, 0x00, 0xFE, 0xFF], .utf32 .big),
  ([0xFF, 0xFE, 0x00, 0x00], .utf32 .little),
  ([0xFE, 0xFF], .utf16 .big),
  ([0xFF, 0xFE], .utf16 .little),
  ([0xEF, 0xBB, 0xBF], .utf8)]

def ofZeros : Octets → Encoding
  | a :: b :: c :: d :: _ =>
    if a = 0 then (if b = 0 then .utf32 .big else .utf16 .big)
    else if b = 0 then (if c = 0 ∧ d = 0 then .utf32 .little else .utf16 .little)
    else .utf8
  | [a, b] => if a = 0 then .utf16 .big else if b = 0 then .utf16 .little else .utf8
  | _ => .utf8

def detect (octets : Octets) : Encoding × Nat :=
  match marks.find? fun mark => octets.take mark.1.length == mark.1 with
  | some (mark, encoding) => (encoding, mark.length)
  | none => (ofZeros octets, 0)

structure Fault where
  encoding : Encoding
  stop : Stop
  deriving DecidableEq, Repr

def Fault.message (f : Fault) : String :=
  let what :=
    if f.stop.length = 1 then
      "byte 0x" ++ String.ofList (hexPair f.stop.first) ++ " in position " ++
        toString f.stop.offset
    else
      "bytes in position " ++ toString f.stop.offset ++ "-" ++
        toString (f.stop.offset + f.stop.length - 1)
  "'" ++ f.encoding.name ++ "' codec can't decode " ++ what ++ ": " ++ f.stop.reason.message
where
  hexPair (octet : UInt8) : List Char :=
    [Nat.digitChar (octet.toNat / 16), Nat.digitChar (octet.toNat % 16)]

def read (octets : Octets) : Except Fault Text :=
  let (encoding, mark) := detect octets
  let offset := if encoding = .utf8 then 0 else mark
  match decode encoding.cutter offset (octets.drop mark) with
  | .ok text => .ok text
  | .error stop => .error ⟨encoding, stop⟩

end Encoding
end QuorumRate
