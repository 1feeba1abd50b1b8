import QuorumRate.Proofs.Json.Spelling

/-! Reading strings and numbers. A string ends at its quote whatever follows; a number ends where
what follows it could not go on with it. -/
namespace QuorumRate.Json

theorem hexDigitRead {digit : CodePoint} {n : Nat} (hex : Hex digit n) :
    hexDigit? digit = some n := by
  have all : ∀ k : Fin 16, hexDigit? (.ofChar (Nat.digitChar k)) = some k.val ∧
      hexDigit? (.ofChar (Nat.digitChar k).toUpper) = some k.val := by decide
  obtain ⟨small, rfl | rfl⟩ := hex
  · exact (all ⟨n, small⟩).1
  · exact (all ⟨n, small⟩).2

theorem unitRead {n : Nat} {digits : Text} (unit : HexUnit n digits) :
    ∃ a b c d, digits = [a, b, c, d] ∧ unit? a b c d = some (.ofUnit n) := by
  cases unit with
  | digits first second third fourth =>
    refine ⟨_, _, _, _, rfl, ?_⟩
    simp [unit?, hexDigitRead first, hexDigitRead second, hexDigitRead third, hexDigitRead fourth]

theorem unitSmall {n : Nat} {digits : Text} (unit : HexUnit n digits) : n < 0x10000 := by
  cases unit with
  | digits first second third fourth =>
    have := first.1
    have := second.1
    have := third.1
    have := fourth.1
    omega

theorem unitValue {n : Nat} (small : n < 0x10000) : (CodePoint.ofUnit n).val = n :=
  Nat.mod_eq_of_lt small

theorem highIff {c : CodePoint} :
    c.isHighSurrogate = true ↔ 0xD800 ≤ c.val ∧ c.val ≤ 0xDBFF := by
  simp [CodePoint.isHighSurrogate]

theorem lowIff {c : CodePoint} :
    c.isLowSurrogate = true ↔ 0xDC00 ≤ c.val ∧ c.val ≤ 0xDFFF := by
  simp [CodePoint.isLowSurrogate]

theorem surrogatesJoin {c : CodePoint} (wide : 0x10000 ≤ c.val) :
    (CodePoint.ofUnit (0xD800 + (c.val - 0x10000) / 0x400)).isHighSurrogate = true ∧
      (CodePoint.ofUnit (0xDC00 + (c.val - 0x10000) % 0x400)).isLowSurrogate = true ∧
      CodePoint.ofSurrogates (.ofUnit (0xD800 + (c.val - 0x10000) / 0x400))
        (.ofUnit (0xDC00 + (c.val - 0x10000) % 0x400)) = c := by
  obtain ⟨n, bound⟩ := c
  dsimp only at wide ⊢
  have high : (CodePoint.ofUnit (0xD800 + (n - 0x10000) / 0x400)).val = _ := unitValue (by omega)
  have low : (CodePoint.ofUnit (0xDC00 + (n - 0x10000) % 0x400)).val = _ := unitValue (by omega)
  refine ⟨highIff.mpr (by omega), lowIff.mpr (by omega), ?_⟩
  rw [CodePoint.ofSurrogates, CodePoint.mk.injEq, high, low]
  omega

theorem shortRead {letter char : Char} (known : (letter, char) ∈ shortEscapes) :
    (CodePoint.ofChar letter).is 'u' = false ∧
      escape? (.ofChar letter) = some (.ofChar char) := by
  have all : ∀ p ∈ shortEscapes, (CodePoint.ofChar p.1).is 'u' = false ∧
      escape? (.ofChar p.1) = some (.ofChar p.2) := by decide
  exact all _ known

theorem readEscapeWritten {c : CodePoint} {w : Text} (escapes : Escapes c w)
    (scalar : c.isSurrogate = false) (next : CodePoint) (more : Text) :
    readEscape (w ++ next :: more) = .ok (c, w.length) := by
  cases escapes with
  | short known =>
    obtain ⟨notUnit, read⟩ := shortRead known
    simp [readEscape, notUnit, read]
  | unit hex =>
    obtain ⟨h₁, h₂, h₃, h₄, rfl, read⟩ := unitRead hex
    have own : CodePoint.ofUnit c.val = c := by
      rw [CodePoint.mk.injEq, unitValue (unitSmall hex)]
    have single : c.isHighSurrogate = false := by
      rw [← Bool.not_eq_true, highIff]
      simp [CodePoint.isSurrogate] at scalar
      omega
    simp only [List.cons_append, List.nil_append, readEscape, CodePoint.ofCharIs, beq_self_eq_true,
      if_true, read, own, single, Bool.false_and]
    split <;> rfl
  | pair wide first second =>
    obtain ⟨h₁, h₂, h₃, h₄, rfl, high⟩ := unitRead first
    obtain ⟨l₁, l₂, l₃, l₄, rfl, low⟩ := unitRead second
    obtain ⟨isHigh, isLow, joined⟩ := surrogatesJoin wide
    simp [readEscape, high, low, isHigh, isLow, joined]

theorem readStringSkip (opening found w rest : Text) :
    readString opening found w.length (w ++ rest) = readString opening found 0 rest := by
  induction w with
  | nil => rfl
  | cons c w ih => rw [List.length_cons, List.cons_append, readString, ih]

theorem readStringQuotes {s t : Text} (quotes : Quotes s t) (scalar : Scalar s)
    (opening found rest : Text) :
    readString opening found 0 (t ++ .ofChar '"' :: rest) = .ok (found.reverse ++ s, rest) := by
  induction quotes generalizing found with
  | nil => simp [readString]
  | @plain c s t quote backslash printable further ih =>
    have rest := ih (fun d member => scalar d (List.mem_cons_of_mem c member)) (c :: found)
    have control : ¬ c.val < 0x20 := Nat.not_lt.mpr printable
    simp [readString, quote, backslash, control, rest]
  | @escaped c w s t escapes further ih =>
    have further := ih (fun d member => scalar d (List.mem_cons_of_mem c member)) (c :: found)
    obtain ⟨next, more, behind⟩ :
        ∃ next more, t ++ CodePoint.ofChar '"' :: rest = next :: more := by
      cases t <;> exact ⟨_, _, rfl⟩
    have read := readEscapeWritten escapes (scalar c List.mem_cons_self) next more
    have visible : ¬ (CodePoint.ofChar '\\').val < 0x20 := by decide
    rw [List.cons_append, List.cons_append, List.append_assoc, behind, readString]
    simp [visible, read]
    rw [readStringSkip, ← behind, further]
    simp

/-! Numbers. -/

def Follows (t : Text) : Prop := ∀ c ∈ t.head?,
  c.isAsciiDigit = false ∧ c.is '.' = false ∧ c.is 'e' = false ∧ c.is 'E' = false

theorem Follows.ends {t : Text} (follows : Follows t) : Text.Ends t :=
  fun c member => (follows c member).1

theorem Follows.pointEnds {t : Text} (follows : Follows t) :
    ∀ c ∈ t.head?, c.isAsciiDigit = false ∧ c.is '.' = false :=
  fun c member => ⟨(follows c member).1, (follows c member).2.1⟩

open Decimal (Parts signText)
open Decimal.Parts (point)
open Numeral (scaleText)
open Numeral.Scale (mark)

theorem splitMinusSign (negative : Bool) {first : CodePoint} (digit : first.isAsciiDigit = true)
    (rest : Text) :
    splitMinus (signText negative ++ first :: rest) = (signText negative, first :: rest) := by
  cases negative with
  | true => rfl
  | false =>
    have minus : first.is '-' = false := CodePoint.digitIs digit (by decide)
    simp [signText, splitMinus, minus]

theorem splitWholeDigits {first : CodePoint} {more rest : Text}
    (digits : ∀ c ∈ first :: more, c.isAsciiDigit = true)
    (lead : first.is '0' = true → more = []) (ends : Text.Ends rest) :
    splitWhole (first :: more ++ rest) = (first :: more, rest) := by
  have taken := Text.takeDigits digits ends
  have dropped := Text.dropDigits digits ends
  rw [List.cons_append] at taken dropped ⊢
  by_cases zero : first.is '0' = true
  · simp [splitWhole, zero, lead zero]
  · simp [splitWhole, zero, taken, dropped]

theorem splitFractionPoint {fraction rest : Text}
    (digits : ∀ c ∈ fraction, c.isAsciiDigit = true)
    (ends : ∀ c ∈ rest.head?, c.isAsciiDigit = false ∧ c.is '.' = false) :
    splitFraction (point fraction ++ rest) = (point fraction, rest) := by
  cases fraction with
  | nil =>
    cases rest with
    | nil => rfl
    | cons c rest => simp [splitFraction, (ends c rfl).2]
  | cons d more =>
    have taken := Text.takeDigits digits fun c member => (ends c member).1
    have dropped := Text.dropDigits digits fun c member => (ends c member).1
    rw [List.cons_append] at taken dropped
    simp [point, splitFraction, taken, dropped]

theorem splitEitherMark (sign : Option Bool) {digits : Text}
    (inside : ∀ c ∈ digits, c.isAsciiDigit = true) (filled : digits ≠ []) (rest : Text) :
    splitEitherSign (mark sign ++ (digits ++ rest)) = (mark sign, digits ++ rest) := by
  obtain ⟨first, more, rfl⟩ := List.exists_cons_of_ne_nil filled
  have digit := inside first List.mem_cons_self
  have minus : first.is '-' = false := CodePoint.digitIs digit (by decide)
  have plus : first.is '+' = false := CodePoint.digitIs digit (by decide)
  rcases sign with _ | _ | _
  · simp [mark, splitEitherSign, minus, plus]
  · rfl
  · rfl

theorem splitExponentScale (scale : Option Numeral.Scale) {rest : Text} (follows : Follows rest) :
    splitExponent (scaleText scale ++ rest) = (scaleText scale, rest) := by
  cases scale with
  | none =>
    cases rest with
    | nil => rfl
    | cons c rest =>
      have own := follows c rfl
      simp [scaleText, splitExponent, own.2.2.1, own.2.2.2]
  | some s =>
    have split := splitEitherMark s.sign s.inside s.filled rest
    have taken := Text.takeDigits s.inside follows.ends
    have dropped := Text.dropDigits s.inside follows.ends
    have filled : s.digits.isEmpty = false := List.isEmpty_eq_false_iff.mpr s.filled
    have letter : ((CodePoint.ofChar (if s.capital then 'E' else 'e')).is 'e' ||
        (CodePoint.ofChar (if s.capital then 'E' else 'e')).is 'E') = true := by
      cases s.capital <;> decide
    simp only [scaleText, Numeral.Scale.text, List.cons_append, List.append_assoc, splitExponent,
      split, taken, dropped, filled, letter, Bool.not_false, Bool.and_self, if_true]

def token (n : Numeral) : NumberToken :=
  ⟨signText n.negative, n.whole, point n.fraction, scaleText n.scale⟩

theorem splitNumeral (n : Numeral) {rest : Text} (follows : Follows rest) :
    splitNumber (n.text ++ rest) = (token n, rest) := by
  obtain ⟨first, more, whole, lead⟩ := n.lead
  have digits := n.wholeInside
  have ends := Numeral.scaleEnds n.scale follows.pointEnds
  have wholeEnds : Text.Ends (point n.fraction ++ (scaleText n.scale ++ rest)) :=
    Numeral.pointEnds fun c member => (ends c member).1
  rw [whole] at digits
  have split : n.text ++ rest = signText n.negative ++
      first :: (more ++ (point n.fraction ++ (scaleText n.scale ++ rest))) := by
    simp [Numeral.text, Numeral.unsigned, whole]
  unfold splitNumber
  rw [split, splitMinusSign n.negative (digits first List.mem_cons_self)]
  dsimp only
  rw [← List.cons_append, splitWholeDigits digits lead wholeEnds]
  dsimp only
  rw [splitFractionPoint n.fractionInside ends]
  dsimp only
  rw [splitExponentScale n.scale follows, token, whole]

theorem constantsNone (negative : Bool) {first : CodePoint} (digit : first.isAsciiDigit = true)
    (rest : Text) : (constants.findSome? fun (name, v) =>
      (Text.dropWord? name (signText negative ++ first :: rest)).map (v, ·)) = none := by
  cases negative with
  | false =>
    have none {word : String} (letter : ∃ c t, Text.ofString word = c :: t ∧
        c.isAsciiDigit = false) : Text.dropWord? word (first :: rest) = none :=
      Text.dropWordDigit digit letter rest
    simp [constants, signText]
    refine ⟨?_, ?_, ?_, ?_, ?_, ?_⟩ <;> exact none ⟨_, _, rfl, rfl⟩
  | true =>
    have letter : first ≠ .ofChar 'I' := by
      intro same
      rw [same] at digit
      contradiction
    simp [constants, signText, Text.dropWord?, Text.ofString, letter]

theorem readNumeral (n : Numeral) {rest : Text} (follows : Follows rest) :
    readScalar (n.text ++ rest) = (token n).value.map (·, rest) := by
  obtain ⟨first, more, split, digit⟩ := n.unsignedLead
  have none := constantsNone n.negative digit (more ++ rest)
  rw [← List.cons_append, ← split, ← List.append_assoc, ← Numeral.text] at none
  obtain ⟨lead, others, whole, _⟩ := n.lead
  have some : (token n).whole.isEmpty = false := by
    rw [token, whole]
    rfl
  unfold readScalar readNumber
  rw [none]
  dsimp only
  rw [splitNumeral n follows]
  dsimp only
  rw [some, if_neg Bool.false_ne_true]

/-! What a number stands for: without a point and a power it is whole, and may be too long. -/

def isWhole (n : Numeral) : Bool := n.fraction.isEmpty && n.scale.isNone

def ofNumeral (n : Numeral) : Json :=
  if isWhole n then .int (if n.negative then -n.coefficient else n.coefficient)
  else .decimal n.decimal

theorem wholeFraction {n : Numeral} (whole : isWhole n = true) : n.fraction = [] := by
  simp only [isWhole, Bool.and_eq_true, List.isEmpty_iff] at whole
  exact whole.1

theorem tokenIsWhole (n : Numeral) :
    ((token n).fraction.isEmpty && (token n).exponent.isEmpty) = isWhole n := by
  unfold token isWhole
  cases n.fraction <;> cases n.scale <;> rfl

theorem wholeValue {n : Numeral} (whole : isWhole n = true) :
    (token n).value = if Text.maxDigits < n.whole.length then .error (.longInteger n.whole.length)
      else .ok (ofNumeral n) := by
  have all : n.coefficient = Decimal.natOfDigits n.whole := by
    rw [Numeral.coefficient, wholeFraction whole, List.append_nil]
  unfold NumberToken.value ofNumeral
  rw [tokenIsWhole, if_pos whole, if_pos whole, all]
  cases negative : n.negative <;> simp [token, negative, signText]

theorem decimalValue {n : Numeral} (scaled : isWhole n = false)
    (readable : Decimal.isReadable n.coefficient n.exponent = true) :
    (token n).value = .ok (ofNumeral n) := by
  have text : (token n).text = n.text := by
    simp [token, NumberToken.text, Numeral.text, Numeral.unsigned]
  unfold NumberToken.value ofNumeral
  rw [tokenIsWhole, scaled, if_neg Bool.false_ne_true, if_neg Bool.false_ne_true, text, n.read,
    if_pos readable]

/-! The numbers that values print as. -/

def wholeNumeral (negative : Bool) (n : Nat) : Numeral where
  negative := negative
  whole := Text.digits n
  fraction := []
  scale := none
  inside := by simpa using Text.digitsInside n
  lead := Text.digitsHead n

theorem wholeNumeralText (negative : Bool) (n : Nat) :
    (wholeNumeral negative n).text = signText negative ++ Text.digits n :=
  congrArg (signText negative ++ ·) (List.append_nil _)

theorem intValue (negative : Bool) {n : Nat} (short : Decimal.digitCount n ≤ Text.maxDigits) :
    (token (wholeNumeral negative n)).value = .ok (.int (if negative then -n else n)) := by
  have length : ¬ Text.maxDigits < (wholeNumeral negative n).whole.length := by
    change ¬ Text.maxDigits < (Text.digits n).length
    rw [Decimal.digitsLength]
    exact not_lt.mpr short
  have all : (wholeNumeral negative n).coefficient = n := by
    simp [Numeral.coefficient, wholeNumeral]
  have whole : isWhole (wholeNumeral negative n) = true := rfl
  rw [wholeValue whole, if_neg length, ofNumeral, if_pos whole, all]
  rfl

theorem printedValue {p : Parts} (negative : Bool) {coefficient : Nat} {exponent : Int}
    (prints : p.Prints coefficient exponent) (pointed : exponent ≠ 0)
    (readable : Decimal.isReadable coefficient exponent = true) :
    (token (prints.numeral negative)).value =
      .ok (.decimal (.finite negative coefficient exponent)) := by
  have scaled : isWhole (prints.numeral negative) = false := by
    by_contra whole
    simp only [Bool.not_eq_false, isWhole, Bool.and_eq_true, List.isEmpty_iff,
      Option.isNone_iff_eq_none] at whole
    have own := prints.numeralExponent negative
    rw [Numeral.exponent, whole.1, whole.2] at own
    exact pointed own.symm
  have read : Decimal.isReadable (prints.numeral negative).coefficient
      (prints.numeral negative).exponent = true := by
    rwa [prints.numeralCoefficient, prints.numeralExponent]
  rw [decimalValue scaled read, ofNumeral, scaled, if_neg Bool.false_ne_true, Numeral.decimal,
    prints.numeralCoefficient, prints.numeralExponent]
  rfl

end QuorumRate.Json
