import QuorumRate.Proofs.Json.Token
import QuorumRate.Proofs.Quote.Accepted

/-! The amount that a number is as it stands, and the one that its text is as a string. Both have
all its digits, but a zero that is written as a whole number loses its sign as it stands. A whole
number that is too long to be read would be out of range. -/
namespace QuorumRate
open Decimal (natOfDigits)
open Json (isWhole ofNumeral)

theorem Decimal.foldDigitsGe (t : Text) (n : Nat) :
    n * 10 ^ t.length ≤ t.foldl (fun n d => n * 10 + (d.val - 48)) n := by
  induction t generalizing n with
  | nil => simp
  | cons d t ih =>
    calc n * 10 ^ (t.length + 1)
        = n * 10 * 10 ^ t.length := by rw [Nat.pow_succ, Nat.mul_assoc, Nat.mul_comm 10]
      _ ≤ (n * 10 + (d.val - 48)) * 10 ^ t.length :=
        Nat.mul_le_mul_right _ (Nat.le_add_right _ _)
      _ ≤ _ := ih (n * 10 + (d.val - 48))

namespace Numeral
variable {n : Numeral}

theorem wholeGe (whole : isWhole n = true) :
    n.whole = [.ofChar '0'] ∨ 10 ^ (n.whole.length - 1) ≤ n.coefficient := by
  obtain ⟨first, rest, split, lead⟩ := n.lead
  have digit := CodePoint.digitIff.mp (n.wholeInside first (by simp [split]))
  have all : n.coefficient = natOfDigits (first :: rest) := by
    rw [coefficient, Json.wholeFraction whole, List.append_nil, split]
  by_cases zero : first.is '0' = true
  · have own : first = .ofChar '0' := (CodePoint.mk.injEq ..).mpr (beq_iff_eq.mp zero)
    exact .inl (by rw [split, lead zero, own])
  · have positive : 1 ≤ first.val - 48 := by
      simp [CodePoint.is] at zero
      omega
    have least := Decimal.foldDigitsGe rest (0 * 10 + (first.val - 48))
    refine .inr ?_
    rw [split, all]
    exact (Nat.le_mul_of_pos_left _ (by omega)).trans least

theorem wholeExponent (whole : isWhole n = true) : n.exponent = 0 := by
  have plain : n.scale = none := by
    simp only [isWhole, Bool.and_eq_true, Option.isNone_iff_eq_none] at whole
    exact whole.2
  rw [exponent, plain, Json.wholeFraction whole]
  rfl

def Long (n : Numeral) : Prop := isWhole n = true ∧ Text.maxDigits < n.whole.length

theorem Long.outOfRange (long : n.Long) : ¬ Amount.Side n.decimal := by
  obtain ⟨whole, length⟩ := long
  unfold Text.maxDigits at length
  intro side
  rcases wholeGe whole with zero | large
  · rw [zero, List.length_singleton] at length
    omega
  have inside := Amount.sideInRange side
  have positive : n.coefficient ≠ 0 :=
    Nat.ne_of_gt (lt_of_lt_of_le (Nat.pow_pos (by decide)) large)
  simp only [Amount.inRange, positive, decide_false, Bool.false_or, decide_eq_true_eq,
    wholeExponent whole, Decimal.adjusted, Amount.maxLead] at inside
  have few : n.coefficient < 10 ^ 29 := (Decimal.digitCountLeIff (by decide)).mp (by omega)
  have many : 10 ^ 29 ≤ 10 ^ (n.whole.length - 1) := Nat.pow_le_pow_right (by decide) (by omega)
  omega

/-- Is this decimal what a number tells, to its last digit? A negative zero may lose its sign, if it
is written as a whole number. -/
structure Tells (n : Numeral) (d : Decimal) : Prop where
  finite : d.isFinite = true
  value : d.value = n.decimal.value
  digits : n.text ≠ Text.ofString "-0" → d = n.decimal

theorem Tells.sideIff {d : Decimal} (tells : n.Tells d) :
    Amount.Side d ↔ Amount.Side n.decimal := by
  have carry {d d' : Decimal} (finite : d'.isFinite = true) (same : d.value = d'.value)
      (side : Amount.Side d) : Amount.Side d' :=
    ⟨finite, same ▸ side.nonneg, same ▸ side.small, same ▸ side.large⟩
  exact ⟨carry rfl tells.value, carry tells.finite tells.value.symm⟩

theorem tellsWhole (whole : isWhole n = true) :
    n.Tells (.ofInt (if n.negative then -n.coefficient else n.coefficient)) := by
  have own : n.decimal = .finite n.negative n.coefficient 0 := by
    rw [decimal, wholeExponent whole]
  cases sign : n.negative with
  | false =>
    have same : Decimal.ofInt n.coefficient = n.decimal := by simp [Decimal.ofInt, own, sign]
    rw [if_neg Bool.false_ne_true, same]
    exact ⟨rfl, rfl, fun _ => rfl⟩
  | true =>
    rw [if_pos rfl]
    by_cases zero : n.coefficient = 0
    · refine ⟨rfl, by simp [own, Decimal.ofInt, zero], fun other => absurd ?_ other⟩
      have alone : n.whole = [.ofChar '0'] := (wholeGe whole).resolve_right fun large =>
        absurd (Nat.pow_pos (by decide)) (Nat.not_lt.mpr (zero ▸ large))
      simp only [isWhole, Bool.and_eq_true, Option.isNone_iff_eq_none, List.isEmpty_iff] at whole
      simp [text, unsigned, sign, alone, whole.1, whole.2, Decimal.signText, scaleText,
        Decimal.Parts.point, Text.ofString]
    · have same : Decimal.ofInt (-n.coefficient) = n.decimal := by
        have positive : 0 < n.coefficient := Nat.pos_of_ne_zero zero
        simp [Decimal.ofInt, own, sign, positive]
      rw [same]
      exact ⟨rfl, rfl, fun _ => rfl⟩

theorem amountBare (n : Numeral) :
    ∃ d, Amount.decimalOf (ofNumeral n) = .ok d ∧ n.Tells d := by
  unfold ofNumeral
  cases whole : isWhole n with
  | false => exact ⟨n.decimal, rfl, rfl, rfl, fun _ => rfl⟩
  | true => exact ⟨_, rfl, tellsWhole whole⟩

theorem readableOfBuilt (built : (Decimal.ofText? n.text).isSome = true) :
    Decimal.isReadable n.coefficient n.exponent = true := by
  rw [n.read] at built
  split at built
  · assumption
  · cases built

theorem amountQuoted (built : (Decimal.ofText? n.text).isSome = true) :
    Amount.decimalOf (.string n.text) = .ok n.decimal := by
  unfold Amount.decimalOf
  dsimp only
  rw [n.read, if_pos (readableOfBuilt built)]

end Numeral
end QuorumRate
