import QuorumRate.Decimal.Reader
import QuorumRate.Proofs.Text.Digits

/-! Numbers as they are written: a sign, digits with or without a point among them, and perhaps a
power of ten. What the reader of decimals makes of such a text is the number of all its digits, with
the power and the digits behind the point for its exponent. -/
namespace QuorumRate

namespace Decimal

def signText (negative : Bool) : Text := if negative then [.ofChar '-'] else []

def Parts.point : Text → Text
  | [] => []
  | digits => .ofChar '.' :: digits

def Clean (t : Text) : Prop := ∀ c ∈ t, (0x20 < c.val ∧ c.val < 0x80) ∧ c.is '_' = false

theorem ofTextClean {t : Text} (clean : Clean t) : ofText? t = ofPlain? t.foldCase := by
  have visible : ∀ c ∈ t, c.isBlank = false := by
    intro c member
    have bounds := (clean c member).1
    simp [CodePoint.isBlank]
    omega
  have bare : (t.filter fun c => !c.is '_') = t :=
    List.filter_eq_self.mpr fun c member => by simp [(clean c member).2]
  have folded : t.map CodePoint.foldDigit = t :=
    (List.map_congr_left fun c member => CodePoint.foldDigitAscii (clean c member).1.2).trans
      (List.map_id t)
  rw [ofText?, Text.trimNone visible, bare, folded]

theorem cleanDigits {t : Text} (inside : ∀ c ∈ t, c.isAsciiDigit = true) : Clean t := by
  intro c member
  have digit := inside c member
  have bounds := CodePoint.digitIff.mp digit
  exact ⟨by omega, CodePoint.digitIs digit (by decide)⟩

theorem splitSignText (negative : Bool) {first : CodePoint} (digit : first.isAsciiDigit = true)
    (rest : Text) : splitSign (signText negative ++ first :: rest) = (negative, first :: rest) := by
  cases negative with
  | true => rfl
  | false =>
    have minus : first.is '-' = false := CodePoint.digitIs digit (by decide)
    have plus : first.is '+' = false := CodePoint.digitIs digit (by decide)
    simp [signText, splitSign, minus, plus]

theorem ofPlainUnsigned (negative : Bool) {first : CodePoint} {rest : Text}
    (digit : first.isAsciiDigit = true) {coefficient : Nat} {exponent : Int}
    (unsigned : unsigned? (first :: rest) = some (coefficient, exponent)) :
    ofPlain? (signText negative ++ first :: rest) =
      if isReadable coefficient exponent then some (.finite negative coefficient exponent)
      else none := by
  have inf : first :: rest ≠ Text.ofString "inf" := Text.wordDigit digit ⟨_, _, rfl, rfl⟩ rest
  have infinity : first :: rest ≠ Text.ofString "infinity" :=
    Text.wordDigit digit ⟨_, _, rfl, rfl⟩ rest
  have nan : Text.dropWord? "nan" (first :: rest) = none :=
    Text.dropWordDigit digit ⟨_, _, rfl, rfl⟩ rest
  have snan : Text.dropWord? "snan" (first :: rest) = none :=
    Text.dropWordDigit digit ⟨_, _, rfl, rfl⟩ rest
  unfold ofPlain?
  rw [splitSignText negative digit]
  simp [inf, infinity, nan, snan, unsigned]

theorem foldDigits {t : Text} (inside : ∀ c ∈ t, c.isAsciiDigit = true) : t.foldCase = t := by
  refine (List.map_congr_left fun c member => ?_).trans (List.map_id t)
  have digit := CodePoint.digitIff.mp (inside c member)
  exact dif_neg (by omega)

@[simp] theorem foldAppend (t u : Text) : (t ++ u).foldCase = t.foldCase ++ u.foldCase :=
  List.map_append

theorem foldSign (negative : Bool) : (signText negative).foldCase = signText negative := by
  cases negative <;> rfl

theorem foldPoint {fraction : Text} (inside : ∀ c ∈ fraction, c.isAsciiDigit = true) :
    (Parts.point fraction).foldCase = Parts.point fraction := by
  cases fraction with
  | nil => rfl
  | cons d rest => exact congrArg (CodePoint.ofChar '.' :: ·) (foldDigits inside)

theorem readPoint {fraction rest : Text} (inside : ∀ c ∈ fraction, c.isAsciiDigit = true)
    (ends : ∀ c ∈ rest.head?, c.isAsciiDigit = false ∧ c.is '.' = false) :
    splitFraction (Parts.point fraction ++ rest) = (fraction, rest) := by
  cases fraction with
  | nil =>
    cases rest with
    | nil => rfl
    | cons c rest => simp [Parts.point, splitFraction, (ends c rfl).2]
  | cons d more =>
    have taken := Text.takeDigits inside fun c member => (ends c member).1
    have dropped := Text.dropDigits inside fun c member => (ends c member).1
    rw [List.cons_append] at taken dropped
    simp [Parts.point, splitFraction, taken, dropped]

end Decimal

open Decimal (signText natOfDigits Clean)
open Decimal.Parts (point)

structure Numeral.Scale where
  capital : Bool
  sign : Option Bool
  digits : Text
  inside : ∀ c ∈ digits, c.isAsciiDigit = true
  filled : digits ≠ []

/-- A number as JSON allows to write it: no zero leads other digits, and digits stand on both sides
of a point. -/
structure Numeral where
  negative : Bool
  whole : Text
  fraction : Text
  scale : Option Numeral.Scale
  inside : ∀ c ∈ whole ++ fraction, c.isAsciiDigit = true
  lead : ∃ first rest, whole = first :: rest ∧ (first.is '0' = true → rest = [])

namespace Numeral
namespace Scale

def mark : Option Bool → Text
  | none => []
  | some negative => [.ofChar (if negative then '-' else '+')]

def text (s : Scale) : Text :=
  .ofChar (if s.capital then 'E' else 'e') :: (mark s.sign ++ s.digits)

def power (s : Scale) : Int :=
  if s.sign = some true then -(natOfDigits s.digits : Int) else natOfDigits s.digits

end Scale

def scaleText : Option Scale → Text
  | none => []
  | some s => s.text

def scalePower : Option Scale → Int
  | none => 0
  | some s => s.power

def unsigned (n : Numeral) : Text := n.whole ++ (point n.fraction ++ scaleText n.scale)

def text (n : Numeral) : Text := signText n.negative ++ n.unsigned

def coefficient (n : Numeral) : Nat := natOfDigits (n.whole ++ n.fraction)

def exponent (n : Numeral) : Int := scalePower n.scale - n.fraction.length

def decimal (n : Numeral) : Decimal := .finite n.negative n.coefficient n.exponent

theorem wholeInside (n : Numeral) : ∀ c ∈ n.whole, c.isAsciiDigit = true :=
  fun c member => n.inside c (List.mem_append_left _ member)

theorem fractionInside (n : Numeral) : ∀ c ∈ n.fraction, c.isAsciiDigit = true :=
  fun c member => n.inside c (List.mem_append_right _ member)

theorem scaleEnds (scale : Option Scale) {rest : Text}
    (ends : ∀ c ∈ rest.head?, c.isAsciiDigit = false ∧ c.is '.' = false) :
    ∀ c ∈ (scaleText scale ++ rest).head?, c.isAsciiDigit = false ∧ c.is '.' = false := by
  cases scale with
  | none => exact ends
  | some s =>
    obtain ⟨capital, _, _, _, _⟩ := s
    cases capital <;> simp [scaleText, Scale.text]

theorem pointEnds {fraction rest : Text} (ends : Text.Ends rest) :
    Text.Ends (point fraction ++ rest) := by
  cases fraction with
  | nil => exact ends
  | cons d more => simp [Text.Ends, point]

theorem unsignedLead (n : Numeral) :
    ∃ first rest, n.unsigned = first :: rest ∧ first.isAsciiDigit = true := by
  obtain ⟨first, rest, whole, _⟩ := n.lead
  refine ⟨first, rest ++ (point n.fraction ++ scaleText n.scale), ?_, ?_⟩
  · rw [unsigned, whole, List.cons_append]
  · exact n.wholeInside first (by simp [whole])

/-! The characters of numbers, none of which the reader skips or a string escapes. -/

def Numeric (c : CodePoint) : Prop := c.isAsciiDigit = true ∨ c ∈ Text.ofString "+-.eE"

theorem numericPlain {c : CodePoint} (numeric : Numeric c) :
    (0x20 < c.val ∧ c.val < 0x80) ∧ c.is '_' = false ∧ c.is '"' = false ∧ c.is '\\' = false := by
  rcases numeric with digit | mark
  · have bounds := CodePoint.digitIff.mp digit
    exact ⟨by omega, CodePoint.digitIs digit (by decide), CodePoint.digitIs digit (by decide),
      CodePoint.digitIs digit (by decide)⟩
  · have all : ∀ c ∈ Text.ofString "+-.eE", (0x20 < c.val ∧ c.val < 0x80) ∧ c.is '_' = false ∧
        c.is '"' = false ∧ c.is '\\' = false := by decide +kernel
    exact all c mark

theorem scaleCharacters (scale : Option Scale) : ∀ c ∈ scaleText scale, Numeric c := by
  cases scale with
  | none => exact nofun
  | some s =>
    obtain ⟨capital, sign, digits, inside, _⟩ := s
    have letter : Numeric (.ofChar (if capital then 'E' else 'e')) := by
      cases capital <;> exact .inr (by decide)
    have mark : ∀ c ∈ Scale.mark sign, Numeric c := by
      rcases sign with _ | _ | _
      · exact nofun
      · exact List.forall_mem_singleton.mpr (.inr (by decide))
      · exact List.forall_mem_singleton.mpr (.inr (by decide))
    exact List.forall_mem_cons.mpr
      ⟨letter, List.forall_mem_append.mpr ⟨mark, fun c member => .inl (inside c member)⟩⟩

theorem characters (n : Numeral) : ∀ c ∈ n.text, Numeric c := by
  have sign : ∀ c ∈ signText n.negative, Numeric c := by
    cases n.negative with
    | true => exact List.forall_mem_singleton.mpr (.inr (by decide))
    | false => exact nofun
  have fraction : ∀ c ∈ point n.fraction, Numeric c := by
    have digits : ∀ c ∈ n.fraction, Numeric c := fun c member => .inl (n.fractionInside c member)
    cases split : n.fraction with
    | nil => exact nofun
    | cons d rest => exact List.forall_mem_cons.mpr ⟨.inr (by decide), split ▸ digits⟩
  simp only [text, unsigned, List.forall_mem_append]
  exact ⟨sign, fun c member => .inl (n.wholeInside c member), fraction, scaleCharacters n.scale⟩

theorem clean (n : Numeral) : Clean n.text := fun c member =>
  have plain := numericPlain (n.characters c member)
  ⟨plain.1, plain.2.1⟩

/-! Reading the parts, with the letter in lower case as the reader wants it. -/

def lowered : Option Scale → Option Scale :=
  Option.map fun s => { s with capital := false }

theorem foldScale (scale : Option Scale) :
    (scaleText scale).foldCase = scaleText (lowered scale) := by
  cases scale with
  | none => rfl
  | some s =>
    obtain ⟨capital, sign, digits, inside, _⟩ := s
    have letter : (CodePoint.ofChar (if capital then 'E' else 'e')).foldCase = .ofChar 'e' := by
      cases capital <;> rfl
    have marked : Text.foldCase (Scale.mark sign) = Scale.mark sign := by
      rcases sign with _ | _ | _ <;> rfl
    change CodePoint.foldCase _ :: Text.foldCase (Scale.mark sign ++ digits) = _
    rw [letter, Decimal.foldAppend, marked, Decimal.foldDigits inside]
    rfl

theorem foldUnsigned (n : Numeral) : n.unsigned.foldCase =
    n.whole ++ (point n.fraction ++ scaleText (lowered n.scale)) := by
  rw [unsigned, Decimal.foldAppend, Decimal.foldAppend, Decimal.foldDigits n.wholeInside,
    Decimal.foldPoint n.fractionInside, foldScale]

theorem splitMark (sign : Option Bool) {digits : Text}
    (inside : ∀ c ∈ digits, c.isAsciiDigit = true) (filled : digits ≠ []) :
    Decimal.splitSign (Scale.mark sign ++ digits) = (sign == some true, digits) := by
  obtain ⟨first, rest, rfl⟩ := List.exists_cons_of_ne_nil filled
  rcases sign with _ | _ | _
  · exact Decimal.splitSignText false (inside first List.mem_cons_self) rest
  · rfl
  · rfl

theorem readScale (scale : Option Scale) :
    Decimal.exponentPart? (scaleText (lowered scale)) = some (scalePower scale) := by
  cases scale with
  | none => rfl
  | some s =>
    have split := splitMark s.sign s.inside s.filled
    have filled : s.digits.isEmpty = false := List.isEmpty_eq_false_iff.mpr s.filled
    have inside := List.all_eq_true.mpr s.inside
    change Decimal.exponentPart? (.ofChar 'e' :: (Scale.mark s.sign ++ s.digits)) = _
    simp [Decimal.exponentPart?, split, filled, inside, scalePower, Scale.power]

theorem readUnsigned (n : Numeral) :
    Decimal.unsigned? n.unsigned.foldCase = some (n.coefficient, n.exponent) := by
  have ends : ∀ c ∈ (scaleText (lowered n.scale)).head?,
      c.isAsciiDigit = false ∧ c.is '.' = false := by
    rw [← List.append_nil (scaleText _)]
    exact scaleEnds (lowered n.scale) nofun
  have wholeEnds : Text.Ends (point n.fraction ++ scaleText (lowered n.scale)) :=
    pointEnds fun c member => (ends c member).1
  have some : n.whole.isEmpty = false := by
    obtain ⟨first, rest, split, _⟩ := n.lead
    rw [split]
    rfl
  unfold Decimal.unsigned?
  rw [foldUnsigned, Text.takeDigits n.wholeInside wholeEnds,
    Text.dropDigits n.wholeInside wholeEnds, Decimal.readPoint n.fractionInside ends]
  simp only [some, Bool.false_and, Bool.false_eq_true, if_false, readScale, Option.map_some]
  rfl

theorem read (n : Numeral) : Decimal.ofText? n.text =
    if Decimal.isReadable n.coefficient n.exponent then some n.decimal else none := by
  obtain ⟨first, rest, split, digit⟩ := n.unsignedLead
  have bounds := CodePoint.digitIff.mp digit
  have own : first.foldCase = first := dif_neg (by omega)
  have unsigned := n.readUnsigned
  have lowered : n.unsigned.foldCase = first :: Text.foldCase rest := by
    rw [split, Text.foldCase, List.map_cons, own]
    rfl
  rw [Decimal.ofTextClean n.clean, text, Decimal.foldAppend, Decimal.foldSign]
  rw [lowered] at unsigned ⊢
  exact Decimal.ofPlainUnsigned n.negative digit unsigned

end Numeral
end QuorumRate
