/-! Code points and texts made of them. A text is a list of code points rather than a `String`
because a decoded body may hold a lone surrogate, which is a code point but no character. -/
namespace QuorumRate

structure CodePoint where
  val : Nat
  isLt : val < 0x110000
  deriving DecidableEq, Repr

namespace CodePoint

def ofChar (c : Char) : CodePoint where
  val := c.toNat
  isLt := by
    have h := c.valid
    simp only [UInt32.isValidChar, Nat.isValidChar] at h
    simp only [Char.toNat, UInt32.toNat] at *
    omega

def isSurrogate (c : CodePoint) : Bool := 0xD800 ≤ c.val && c.val ≤ 0xDFFF

def isHighSurrogate (c : CodePoint) : Bool := 0xD800 ≤ c.val && c.val ≤ 0xDBFF

def isLowSurrogate (c : CodePoint) : Bool := 0xDC00 ≤ c.val && c.val ≤ 0xDFFF

def ofSurrogates (high low : CodePoint) : CodePoint where
  val := 0x10000 + (high.val - 0xD800) % 0x400 * 0x400 + (low.val - 0xDC00) % 0x400
  isLt := by omega

def ofUnit (n : Nat) : CodePoint := ⟨n % 0x10000, by omega⟩

def replacement : CodePoint := ⟨0xFFFD, by decide⟩

def ofNat (n : Nat) : CodePoint := if h : n < 0x110000 then ⟨n, h⟩ else replacement

def isIn (c : CodePoint) (runs : List (Nat × Nat)) : Bool :=
  runs.any fun run => run.1 ≤ c.val && c.val ≤ run.2

def toChar (c : CodePoint) : Char := if c.isSurrogate then '\uFFFD' else Char.ofNat c.val

def is (c : CodePoint) (ch : Char) : Bool := c.val == ch.toNat

def isAscii (c : CodePoint) : Bool := c.val < 0x80

def isAsciiDigit (c : CodePoint) : Bool := 48 ≤ c.val && c.val ≤ 57

def foldCase (c : CodePoint) : CodePoint :=
  if h : 65 ≤ c.val ∧ c.val ≤ 90 then ⟨c.val + 32, by omega⟩ else c

end CodePoint

abbrev Text := List CodePoint

namespace Text

def ofString (s : String) : Text := s.toList.map CodePoint.ofChar

def toString (t : Text) : String := String.ofList (t.map CodePoint.toChar)

def foldCase (t : Text) : Text := t.map CodePoint.foldCase

def dropWord? (word : String) (t : Text) : Option Text :=
  let w := ofString word
  if t.take w.length = w then some (t.drop w.length) else none

end Text
end QuorumRate
