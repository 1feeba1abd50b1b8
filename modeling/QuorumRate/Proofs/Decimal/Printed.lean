import QuorumRate.Decimal.Printer
import QuorumRate.Proofs.Decimal.Numeral
import QuorumRate.Proofs.Decimal.Value

/-! Finite decimals printed and read back. What is printed falls into digits before the point,
digits behind it and a power of ten, from which the reader takes the same coefficient and
exponent. -/
namespace QuorumRate

namespace Decimal

@[simp] theorem digitsLength (n : Nat) : (Text.digits n).length = digitCount n := by
  simp [Text.digits, digitCount]

theorem natOfChars (chars : List Char) :
    natOfDigits (chars.map .ofChar) = Nat.ofDigitChars 10 chars 0 := by
  rw [natOfDigits, List.foldl_map, Nat.ofDigitChars_eq_foldl]
  simp [Nat.mul_comm, CodePoint.ofChar]

@[simp] theorem natOfDigitsPrinted (n : Nat) : natOfDigits (Text.digits n) = n := by
  rw [Text.digits, natOfChars, Nat.ofDigitChars_ten_toDigits]

@[simp] theorem natOfDigitsZeros (k : Nat) (t : Text) :
    natOfDigits (List.replicate k (.ofChar '0') ++ t) = natOfDigits t := by
  induction k with
  | zero => rfl
  | succ k ih => simpa [List.replicate_succ, natOfDigits, CodePoint.ofChar] using ih

structure Parts where
  whole : Text
  fraction : Text
  power : Option Int

namespace Parts

def scale : Option Int → Text
  | none => []
  | some power =>
    .ofChar 'E' :: .ofChar (if power < 0 then '-' else '+') :: Text.digits power.natAbs

def text (p : Parts) : Text := p.whole ++ point p.fraction ++ scale p.power

def ofPlaces (digits : Text) (places : Nat) : Parts :=
  if places < digits.length then
    ⟨digits.take (digits.length - places), digits.drop (digits.length - places), none⟩
  else ⟨[.ofChar '0'], List.replicate (places - digits.length) (.ofChar '0') ++ digits, none⟩

def ofFinite (coefficient : Nat) (exponent : Int) : Parts :=
  let digits := Text.digits coefficient
  let lead := adjusted coefficient exponent
  if exponent ≤ 0 && -6 ≤ lead then ofPlaces digits exponent.natAbs
  else ⟨digits.take 1, digits.drop 1, some lead⟩

structure Prints (p : Parts) (coefficient : Nat) (exponent : Int) : Prop where
  digits : ∀ d ∈ p.whole ++ p.fraction, d.isAsciiDigit = true
  lead : ∃ first rest, p.whole = first :: rest ∧ (first.is '0' = true → rest = [])
  coefficient : natOfDigits (p.whole ++ p.fraction) = coefficient
  exponent : p.power.getD 0 - p.fraction.length = exponent

@[simp] theorem pointNone : point [] = [] := rfl

theorem pointSome {digits : Text} (some : digits ≠ []) : point digits = .ofChar '.' :: digits := by
  cases digits with
  | nil => contradiction
  | cons d rest => rfl

theorem plainText {chars : List Char} (some : chars ≠ []) (places : Nat) :
    (plainDigits chars places).map .ofChar = (ofPlaces (chars.map .ofChar) places).text := by
  have positive := List.length_pos_iff.mpr some
  unfold plainDigits ofPlaces
  simp only [List.length_map]
  by_cases zero : places = 0
  · simp [zero, positive, text, scale, List.take_of_length_le, List.drop_of_length_le]
  by_cases inside : places < chars.length
  · have rest : (chars.map CodePoint.ofChar).drop (chars.length - places) ≠ [] := by
      simp [List.drop_eq_nil_iff]
      omega
    simp [zero, inside, text, pointSome rest, scale, List.map_take, List.map_drop]
  · simp [zero, inside, text, pointSome, some, scale]

theorem finiteText (coefficient : Nat) (exponent : Int) :
    (finiteDigits coefficient exponent).map .ofChar = (ofFinite coefficient exponent).text := by
  unfold finiteDigits ofFinite
  dsimp only
  split
  · exact plainText Nat.toDigits_ne_nil _
  · have signed (n : Int) : (signedDigits n).map CodePoint.ofChar =
        .ofChar (if n < 0 then '-' else '+') :: Text.digits n.natAbs := rfl
    rw [List.map_append, List.map_cons, signed]
    unfold text scale Text.digits
    match Nat.toDigits 10 coefficient with
    | [] => rfl
    | [_] => rfl
    | _ :: _ :: _ => rfl

theorem ofPlacesPrints (coefficient places : Nat) :
    (ofPlaces (Text.digits coefficient) places).Prints coefficient (-places) := by
  have inside := Text.digitsInside coefficient
  obtain ⟨first, rest, split, lead⟩ := Text.digitsHead coefficient
  unfold ofPlaces
  split_ifs with few
  · refine ⟨?_, ?_, ?_, ?_⟩
    · rwa [List.take_append_drop]
    · obtain ⟨k, count⟩ : ∃ k, (Text.digits coefficient).length - places = k + 1 :=
        ⟨_, (Nat.succ_pred_eq_of_pos (by omega)).symm⟩
      refine ⟨first, rest.take k, by dsimp only; rw [count, split, List.take_succ_cons], ?_⟩
      intro zero
      rw [lead zero, List.take_nil]
    · rw [List.take_append_drop, natOfDigitsPrinted]
    · rw [List.length_drop, Option.getD_none]
      omega
  · refine ⟨?_, ⟨_, [], rfl, fun _ => rfl⟩, ?_, ?_⟩
    · intro d member
      simp only [List.mem_append, List.mem_singleton, List.mem_replicate] at member
      rcases member with zero | ⟨_, zero⟩ | digit
      · simp [zero]
      · simp [zero]
      · exact inside d digit
    · change natOfDigits (List.replicate (places - (Text.digits coefficient).length + 1)
        (.ofChar '0') ++ Text.digits coefficient) = coefficient
      rw [natOfDigitsZeros, natOfDigitsPrinted]
    · rw [List.length_append, List.length_replicate, Option.getD_none]
      omega

theorem ofFinitePrints (coefficient : Nat) (exponent : Int) :
    (ofFinite coefficient exponent).Prints coefficient exponent := by
  obtain ⟨first, rest, split, lead⟩ := Text.digitsHead coefficient
  unfold ofFinite
  dsimp only
  split_ifs with plain
  · have places : -(exponent.natAbs : Int) = exponent := by
      simp only [Bool.and_eq_true, decide_eq_true_eq] at plain
      omega
    rw [← places, Int.natAbs_neg, Int.natAbs_natCast]
    exact ofPlacesPrints coefficient exponent.natAbs
  · refine ⟨?_, ⟨first, [], by dsimp only; rw [split]; rfl, fun _ => rfl⟩, ?_, ?_⟩
    · rw [List.take_append_drop]
      exact Text.digitsInside coefficient
    · rw [List.take_append_drop, natOfDigitsPrinted]
    · have count := digitCountPos coefficient
      rw [List.length_drop, Option.getD_some, digitsLength, adjusted]
      omega

namespace Prints
variable {p : Parts} {coefficient : Nat} {exponent : Int}

theorem textLead (prints : p.Prints coefficient exponent) :
    ∃ first rest, p.text = first :: rest ∧ first.isAsciiDigit = true := by
  obtain ⟨first, rest, whole, _⟩ := prints.lead
  refine ⟨first, rest ++ point p.fraction ++ scale p.power, ?_, ?_⟩
  · rw [text, whole, List.cons_append, List.cons_append]
  · exact prints.digits first (by simp [whole])

end Prints

/-! What is printed is a number as texts write it, so it is read as any other. -/

def scaleOf (power : Int) : Numeral.Scale where
  capital := true
  sign := some (decide (power < 0))
  digits := Text.digits power.natAbs
  inside := Text.digitsInside power.natAbs
  filled := by
    rw [← List.length_pos_iff, digitsLength]
    exact digitCountPos power.natAbs

theorem scaleOfText (power : Option Int) :
    Numeral.scaleText (power.map scaleOf) = scale power := by
  cases power with
  | none => rfl
  | some power => by_cases negative : power < 0 <;>
      simp [Numeral.scaleText, Numeral.Scale.text, Numeral.Scale.mark, scaleOf, scale, negative]

theorem scaleOfPower (power : Option Int) :
    Numeral.scalePower (power.map scaleOf) = power.getD 0 := by
  cases power with
  | none => rfl
  | some power =>
    by_cases negative : power < 0 <;>
      simp [Numeral.scalePower, Numeral.Scale.power, scaleOf, negative, -Nat.cast_natAbs] <;> omega

namespace Prints
variable {p : Parts} {coefficient : Nat} {exponent : Int}

def numeral (prints : p.Prints coefficient exponent) (negative : Bool) : Numeral where
  negative := negative
  whole := p.whole
  fraction := p.fraction
  scale := p.power.map scaleOf
  inside := prints.digits
  lead := prints.lead

theorem numeralText (prints : p.Prints coefficient exponent) (negative : Bool) :
    (prints.numeral negative).text = signText negative ++ p.text := by
  rw [Numeral.text, Numeral.unsigned, text, List.append_assoc, ← scaleOfText]
  rfl

theorem numeralCoefficient (prints : p.Prints coefficient exponent) (negative : Bool) :
    (prints.numeral negative).coefficient = coefficient := prints.coefficient

theorem numeralExponent (prints : p.Prints coefficient exponent) (negative : Bool) :
    (prints.numeral negative).exponent = exponent :=
  (congrArg (· - (p.fraction.length : Int)) (scaleOfPower p.power)).trans prints.exponent

end Prints
end Parts

theorem printedText (negative : Bool) (coefficient : Nat) (exponent : Int) :
    Text.ofString (toString (.finite negative coefficient exponent)) =
      signText negative ++ (Parts.ofFinite coefficient exponent).text := by
  rw [Text.ofString, toString, String.toList_ofList, ← Parts.finiteText]
  cases negative <;> rfl

theorem cleanPrinted (negative : Bool) {p : Parts} {coefficient exponent}
    (prints : p.Prints coefficient exponent) : Clean (signText negative ++ p.text) :=
  prints.numeralText negative ▸ (prints.numeral negative).clean

theorem readPrinted (negative : Bool) {coefficient : Nat} {exponent : Int}
    (readable : isReadable coefficient exponent = true) :
    ofText? (Text.ofString (toString (.finite negative coefficient exponent))) =
      some (.finite negative coefficient exponent) := by
  have prints := Parts.ofFinitePrints coefficient exponent
  rw [printedText, ← prints.numeralText, Numeral.read, Numeral.decimal, prints.numeralCoefficient,
    prints.numeralExponent, if_pos readable]
  rfl

def Built (d : Decimal) : Prop := ∃ t, ofText? t = some d

theorem builtReadable {negative : Bool} {coefficient : Nat} {exponent : Int}
    (built : Built (.finite negative coefficient exponent)) :
    isReadable coefficient exponent = true := by
  obtain ⟨t, read⟩ := built
  unfold ofText? ofPlain? at read
  dsimp only at read
  split at read
  · cases read
  · split at read
    · obtain ⟨_, _, other⟩ := Option.map_eq_some_iff.mp read
      cases other
    · obtain ⟨_, _, other⟩ := Option.map_eq_some_iff.mp read
      cases other
    · obtain ⟨⟨c, e⟩, _, ok⟩ := Option.bind_eq_some_iff.mp read
      dsimp only at ok
      split at ok
      · rename_i readable
        cases ok
        exact readable
      · cases ok

theorem readBuilt {d : Decimal} (finite : d.isFinite = true) (built : d.Built) :
    ofText? (Text.ofString d.toString) = some d := by
  cases d with
  | finite n c e => exact readPrinted n (builtReadable built)
  | infinity negative => exact absurd finite Bool.false_ne_true
  | nan negative signaling payload => exact absurd finite Bool.false_ne_true

theorem readableModest {coefficient : Nat} {exponent : Int} (least : -10 ^ 17 ≤ exponent)
    (most : exponent ≤ 10 ^ 17) (few : digitCount coefficient ≤ 9 * 10 ^ 17) :
    isReadable coefficient exponent = true := by
  have lower : minReadExponent ≤ exponent := by
    unfold minReadExponent
    omega
  have upper : adjusted coefficient exponent ≤ maxReadExponent := by
    unfold adjusted maxReadExponent
    omega
  have plain : exponent ≤ maxReadExponent := by
    unfold maxReadExponent
    omega
  unfold isReadable
  split <;> simp [lower, upper, plain]

end Decimal
end QuorumRate
