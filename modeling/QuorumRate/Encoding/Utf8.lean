import QuorumRate.Encoding.Segment
/-! UTF-8. A stretch that encodes nothing ends before the first octet that could not follow it.
Surrogates, which well-formed text does not hold, can be let through. -/
namespace QuorumRate.Encoding.Utf8

def isTail (b : UInt8) : Bool := 0x80 ≤ b && b < 0xC0

def tailBits (b : UInt8) : Nat := b.toNat % 64

def codePoint2 (a b : UInt8) : CodePoint where
  val := a.toNat % 32 * 64 + tailBits b
  isLt := by simp only [tailBits]; omega

def codePoint3 (a b c : UInt8) : CodePoint where
  val := a.toNat % 16 * 4096 + tailBits b * 64 + tailBits c
  isLt := by simp only [tailBits]; omega

def codePoint4 (a b c d : UInt8) : CodePoint where
  val := (a.toNat % 8 * 64 + tailBits b) % 272 * 4096 + tailBits c * 64 + tailBits d
  isLt := by simp only [tailBits]; omega

/-- May this octet follow the first one? The range is narrower after four of them, to exclude
longer forms than needed, surrogates and numbers past the last code point. -/
def mayFollow (a b : UInt8) : Bool :=
  isTail b &&
    (if a = 0xE0 then 0xA0 ≤ b
    else if a = 0xED then b < 0xA0
    else if a = 0xF0 then 0x90 ≤ b
    else if a = 0xF4 then b < 0x90
    else true)

def isLead2 (a : UInt8) : Bool := 0xC2 ≤ a && a < 0xE0
def isLead3 (a : UInt8) : Bool := 0xE0 ≤ a && a < 0xF0
def isLead4 (a : UInt8) : Bool := 0xF0 ≤ a && a < 0xF5

def cut2 (a : UInt8) : Octets → Segment
  | [] => .invalid .unexpectedEnd a 1
  | b :: _ =>
    if mayFollow a b then .character (codePoint2 a b) 2 else .invalid .invalidContinuation a 1

def cut3 (a : UInt8) : Octets → Segment
  | [] => .invalid .unexpectedEnd a 1
  | b :: rest =>
    if mayFollow a b then
      match rest with
      | [] => .invalid .unexpectedEnd a 2
      | c :: _ =>
        if isTail c then .character (codePoint3 a b c) 3 else .invalid .invalidContinuation a 2
    else .invalid .invalidContinuation a 1

def cut4 (a : UInt8) : Octets → Segment
  | [] => .invalid .unexpectedEnd a 1
  | b :: rest =>
    if mayFollow a b then
      match rest with
      | [] => .invalid .unexpectedEnd a 2
      | c :: rest =>
        if isTail c then
          match rest with
          | [] => .invalid .unexpectedEnd a 3
          | d :: _ =>
            if isTail d then .character (codePoint4 a b c d) 4
            else .invalid .invalidContinuation a 3
        else .invalid .invalidContinuation a 2
    else .invalid .invalidContinuation a 1

def cut : Cutter := fun a rest =>
  if a < 0x80 then .character ⟨a.toNat % 128, by omega⟩ 1
  else if isLead2 a then cut2 a rest
  else if isLead3 a then cut3 a rest
  else if isLead4 a then cut4 a rest
  else .invalid .invalidStart a 1

def cutWithSurrogates : Cutter := fun a rest =>
  match rest with
  | b :: c :: _ =>
    if a = 0xED && 0xA0 ≤ b && isTail b && isTail c then .character (codePoint3 a b c) 3
    else cut a rest
  | _ => cut a rest

def encode (c : CodePoint) : Octets :=
  let n := c.val
  if n < 0x80 then [.ofNat n]
  else if n < 0x800 then [.ofNat (0xC0 + n / 64), .ofNat (0x80 + n % 64)]
  else if n < 0x10000 then
    [.ofNat (0xE0 + n / 4096), .ofNat (0x80 + n / 64 % 64), .ofNat (0x80 + n % 64)]
  else
    [.ofNat (0xF0 + n / 262144), .ofNat (0x80 + n / 4096 % 64), .ofNat (0x80 + n / 64 % 64),
      .ofNat (0x80 + n % 64)]

end QuorumRate.Encoding.Utf8
