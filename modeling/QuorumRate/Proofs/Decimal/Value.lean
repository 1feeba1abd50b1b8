import Mathlib.Algebra.Order.Field.Power
import Mathlib.Algebra.Order.Ring.Rat
import Mathlib.Order.Compare
import Mathlib.Tactic.GCongr
import Mathlib.Tactic.Linarith
import Mathlib.Tactic.Positivity
import Mathlib.Tactic.Ring
import QuorumRate.Decimal.Order

/-! The rational numbers that finite decimals stand for. The order of decimals never scales one
operand far up to the other; here it is the order of the values all the same. -/
namespace QuorumRate.Decimal

def magnitude (c : Nat) (e : Int) : ℚ := c * 10 ^ e

def value : Decimal → ℚ
  | .finite negative c e => if negative then -magnitude c e else magnitude c e
  | _ => 0

@[simp] theorem valueZero (n : Bool) (e : Int) : value (.finite n 0 e) = 0 := by
  cases n <;> simp [value, magnitude]

@[simp] theorem magnitudeZero (e : Int) : magnitude 0 e = 0 := by simp [magnitude]

@[simp] theorem magnitudeOne (e : Int) : magnitude 1 e = 10 ^ e := by simp [magnitude]

theorem magnitudeNonneg (c : Nat) (e : Int) : 0 ≤ magnitude c e := by
  unfold magnitude
  positivity

theorem magnitudePos {c : Nat} (nonzero : c ≠ 0) (e : Int) : 0 < magnitude c e := by
  have positive : (0 : ℚ) < c := by exact_mod_cast Nat.pos_of_ne_zero nonzero
  unfold magnitude
  positivity

theorem magnitudeShift (c k : Nat) (e : Int) : magnitude (c * 10 ^ k) e = magnitude c (e + k) := by
  unfold magnitude
  rw [zpow_add₀ (by norm_num), zpow_natCast]
  push_cast
  ring

theorem magnitudePower (k : Nat) (e : Int) : magnitude (10 ^ k) e = 10 ^ (e + k) := by
  have shifted := magnitudeShift 1 k e
  rw [one_mul] at shifted
  rw [shifted, magnitudeOne]

theorem magnitudeLe {a b : Nat} (e : Int) (le : a ≤ b) : magnitude a e ≤ magnitude b e := by
  have : (a : ℚ) ≤ b := by exact_mod_cast le
  unfold magnitude
  gcongr

theorem magnitudeStrictMono (e : Int) : StrictMono fun c : Nat => magnitude c e := by
  intro a b lt
  have : (a : ℚ) < b := by exact_mod_cast lt
  dsimp only [magnitude]
  gcongr

theorem magnitudeLtIffCoefficient {a b : Nat} {e : Int} :
    magnitude a e < magnitude b e ↔ a < b :=
  (magnitudeStrictMono e).lt_iff_lt

theorem digitCountPos (n : Nat) : 0 < digitCount n := Nat.length_toDigits_pos

theorem digitCountLeIff {n k : Nat} (positive : 0 < k) : digitCount n ≤ k ↔ n < 10 ^ k :=
  Nat.length_toDigits_le_iff (by decide) positive

theorem magnitudeLtIff {c : Nat} {e k : Int} (nonzero : c ≠ 0) :
    magnitude c e < 10 ^ k ↔ adjusted c e < k := by
  have count := digitCountPos c
  unfold adjusted
  by_cases below : k ≤ e
  · have large : (10 : ℚ) ^ k ≤ magnitude c e := calc
      (10 : ℚ) ^ k ≤ 10 ^ e := zpow_le_zpow_right₀ (by norm_num) below
      _ = magnitude 1 e := (magnitudeOne e).symm
      _ ≤ magnitude c e := magnitudeLe e (Nat.one_le_iff_ne_zero.mpr nonzero)
    constructor
    · intro small
      exact absurd small (not_lt.mpr large)
    · intro small
      omega
  · obtain ⟨j, rfl⟩ : ∃ j : Nat, k = e + j := ⟨(k - e).toNat, by omega⟩
    rw [← magnitudePower, magnitudeLtIffCoefficient, ← digitCountLeIff (by omega)]
    omega

theorem magnitudeGeIff {c : Nat} {e k : Int} (nonzero : c ≠ 0) :
    10 ^ k ≤ magnitude c e ↔ k ≤ adjusted c e := by
  rw [← not_lt, magnitudeLtIff nonzero, not_lt]

theorem compareScaled (c₁ : Nat) (e₁ : Int) (c₂ : Nat) (e₂ : Int) :
    compare (c₁ * Nat.pow 10 (e₁ - e₂).toNat) (c₂ * Nat.pow 10 (e₂ - e₁).toNat) =
      cmp (magnitude c₁ e₁) (magnitude c₂ e₂) := by
  rw [Nat.pow_eq, Nat.pow_eq]
  have left : magnitude (c₁ * 10 ^ (e₁ - e₂).toNat) (min e₁ e₂) = magnitude c₁ e₁ := by
    rw [magnitudeShift]
    congr 1
    omega
  have right : magnitude (c₂ * 10 ^ (e₂ - e₁).toNat) (min e₁ e₂) = magnitude c₂ e₂ := by
    rw [magnitudeShift]
    congr 1
    omega
  rw [← left, ← right, ← cmp_eq_compare]
  exact ((magnitudeStrictMono (min e₁ e₂)).cmp_map_eq _ _).symm

theorem compareMagnitudeValue {c₁ c₂ : Nat} (nonzero₁ : c₁ ≠ 0) (nonzero₂ : c₂ ≠ 0)
    (e₁ e₂ : Int) :
    compareMagnitude c₁ e₁ c₂ e₂ = cmp (magnitude c₁ e₁) (magnitude c₂ e₂) := by
  unfold compareMagnitude
  rw [← cmp_eq_compare]
  cases order : cmp (adjusted c₁ e₁) (adjusted c₂ e₂) with
  | eq => exact compareScaled c₁ e₁ c₂ e₂
  | lt =>
    have below := (magnitudeLtIff nonzero₁).mpr ((cmp_eq_lt_iff _ _).mp order)
    have above : (10 : ℚ) ^ adjusted c₂ e₂ ≤ magnitude c₂ e₂ := (magnitudeGeIff nonzero₂).mpr le_rfl
    exact (below.trans_le above).cmp_eq_lt.symm
  | gt =>
    have below := (magnitudeLtIff nonzero₂).mpr ((cmp_eq_gt_iff _ _).mp order)
    have above : (10 : ℚ) ^ adjusted c₁ e₁ ≤ magnitude c₁ e₁ := (magnitudeGeIff nonzero₁).mpr le_rfl
    exact (below.trans_le above).cmp_eq_gt.symm

theorem compareNegated (a b : ℚ) : cmp (-a) (-b) = cmp b a := by
  rcases lt_trichotomy a b with lt | rfl | gt
  · rw [lt.cmp_eq_gt, (neg_lt_neg lt).cmp_eq_gt]
  · rw [cmp_self_eq_eq, cmp_self_eq_eq]
  · rw [gt.cmp_eq_lt, (neg_lt_neg gt).cmp_eq_lt]

theorem compareFiniteValue (n₁ : Bool) (c₁ : Nat) (e₁ : Int) (n₂ : Bool) (c₂ : Nat) (e₂ : Int) :
    compareFinite n₁ c₁ e₁ n₂ c₂ e₂ =
      cmp (value (.finite n₁ c₁ e₁)) (value (.finite n₂ c₂ e₂)) := by
  unfold compareFinite
  by_cases zero₁ : c₁ = 0
  · rw [if_pos zero₁, zero₁, valueZero]
    by_cases zero₂ : c₂ = 0
    · rw [if_pos zero₂, zero₂, valueZero, cmp_self_eq_eq]
    · have positive := magnitudePos zero₂ e₂
      rw [if_neg zero₂]
      cases n₂ with
      | false => exact positive.cmp_eq_lt.symm
      | true => exact (neg_neg_of_pos positive).cmp_eq_gt.symm
  · have positive₁ := magnitudePos zero₁ e₁
    rw [if_neg zero₁]
    by_cases zero₂ : c₂ = 0
    · rw [if_pos zero₂, zero₂, valueZero]
      cases n₁ with
      | false => exact positive₁.cmp_eq_gt.symm
      | true => exact (neg_neg_of_pos positive₁).cmp_eq_lt.symm
    · have positive₂ := magnitudePos zero₂ e₂
      rw [if_neg zero₂]
      cases n₁ <;> cases n₂
      case false.false => exact compareMagnitudeValue zero₁ zero₂ e₁ e₂
      case true.true =>
        exact (compareMagnitudeValue zero₂ zero₁ e₂ e₁).trans (compareNegated _ _).symm
      case false.true =>
        have apart : -magnitude c₂ e₂ < magnitude c₁ e₁ := by linarith
        exact apart.cmp_eq_gt.symm
      case true.false =>
        have apart : -magnitude c₁ e₁ < magnitude c₂ e₂ := by linarith
        exact apart.cmp_eq_lt.symm

theorem compareFinites {a b : Decimal} (left : a.isFinite) (right : b.isFinite) :
    compare? a b = some (cmp a.value b.value) := by
  cases a <;> cases b <;> try contradiction
  exact congrArg some (compareFiniteValue ..)

theorem valueOfCompare {a b : Decimal} (same : compare? a b = some .eq) : a.value = b.value := by
  cases a <;> cases b <;> try rfl
  case finite.finite n c e n' c' e' =>
    rw [compareFinites rfl rfl, Option.some.injEq] at same
    exact (cmp_eq_eq_iff _ _).mp same
  all_goals
    simp only [compare?, Option.some.injEq, reduceCtorEq] at same
  all_goals
    split at same <;> contradiction

theorem lessFinite {a b : Decimal} (left : a.isFinite) (right : b.isFinite) :
    less a b = .ok (decide (a.value < b.value)) := by
  unfold less
  rw [compareFinites left right]
  dsimp only
  congr 1
  rw [Bool.eq_iff_iff, beq_iff_eq, cmp_eq_lt_iff, decide_eq_true_iff]

theorem lessUnordered {a b : Decimal} (nan : a.isNaN = true ∨ b.isNaN = true) :
    less a b = .error .invalidOperation := by
  unfold less
  cases a <;> cases b <;> simp [isNaN] at nan <;> rfl

theorem lessOrdered {a b : Decimal} (left : a.isNaN = false) (right : b.isNaN = false) :
    ∃ below, less a b = .ok below := by
  unfold less
  cases a <;> cases b <;> first | contradiction | exact ⟨_, rfl⟩

theorem belowZeroIff {d : Decimal} (finite : d.isFinite) :
    d.isBelowZero = true ↔ d.value < 0 := by
  cases d <;> try contradiction
  rename_i n c e
  by_cases zero : c = 0
  · rw [zero, valueZero]
    simp [isBelowZero]
  · have positive := magnitudePos zero e
    cases n
    case false => exact iff_of_false nofun (not_lt.mpr positive.le)
    case true => exact iff_of_true (by simpa [isBelowZero] using zero) (neg_neg_of_pos positive)

end QuorumRate.Decimal
