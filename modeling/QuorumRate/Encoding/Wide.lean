import QuorumRate.Encoding.Segment
/-! UTF-16 and UTF-32 in either order of octets. A surrogate without its partner stands for
itself. -/
namespace QuorumRate.Encoding

inductive ByteOrder
  | little
  | big
  deriving DecidableEq, Repr

def ByteOrder.unit16 (order : ByteOrder) (a b : UInt8) : CodePoint :=
  match order with
  | .little => .ofUnit (a.toNat + 256 * b.toNat)
  | .big => .ofUnit (256 * a.toNat + b.toNat)

def ByteOrder.unit32 (order : ByteOrder) (a b c d : UInt8) : Nat :=
  match order with
  | .little => a.toNat + 256 * (b.toNat + 256 * (c.toNat + 256 * d.toNat))
  | .big => 256 * (256 * (256 * a.toNat + b.toNat) + c.toNat) + d.toNat

def Utf16.cut (order : ByteOrder) : Cutter := fun a rest =>
  match rest with
  | [] => .invalid .truncated a 1
  | b :: rest =>
    let unit := order.unit16 a b
    match rest with
    | c :: d :: _ =>
      let next := order.unit16 c d
      if unit.isHighSurrogate && next.isLowSurrogate then .character (.ofSurrogates unit next) 4
      else .character unit 2
    | _ => .character unit 2

def Utf32.cut (order : ByteOrder) : Cutter := fun a rest =>
  match rest with
  | b :: c :: d :: _ =>
    let n := order.unit32 a b c d
    if h : n < 0x110000 then .character ⟨n, h⟩ 4 else .invalid .outOfRange a 4
  | short => .invalid .truncated a (1 + short.length)

end QuorumRate.Encoding
