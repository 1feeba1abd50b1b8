import Mathlib.Algebra.Order.Floor.Semifield
import Mathlib.Data.Int.Log
import Mathlib.Data.Rat.Floor
import Mathlib.Tactic.FieldSimp
import QuorumRate.Decimal.Arithmetic
import QuorumRate.Proofs.Decimal.Value

/-! Rounding as a function of the value alone. A positive number goes to the nearest multiple of the
place of its last digit, a half to the even one; this keeps the order of numbers and leaves what
fits as it is, so that no result passes a number that fits. -/
namespace QuorumRate.Decimal

def nearest (x : ℚ) : Nat :=
  if x - ⌊x⌋₊ < 1 / 2 then ⌊x⌋₊
  else if 1 / 2 < x - ⌊x⌋₊ then ⌊x⌋₊ + 1
  else ⌊x⌋₊ + ⌊x⌋₊ % 2

theorem nearestBounds {x : ℚ} (nonneg : 0 ≤ x) :
    2 * x ≤ 2 * nearest x + 1 ∧ 2 * (nearest x : ℚ) ≤ 2 * x + 1 := by
  have low := Nat.floor_le nonneg
  have parity : (⌊x⌋₊ % 2 : ℕ) < 2 := Nat.mod_lt _ two_pos
  have even : ((⌊x⌋₊ % 2 : ℕ) : ℚ) ≤ 1 := by exact_mod_cast Nat.le_of_lt_succ parity
  have odd : (0 : ℚ) ≤ (⌊x⌋₊ % 2 : ℕ) := Nat.cast_nonneg _
  have high := Nat.lt_floor_add_one x
  unfold nearest
  split_ifs <;> push_cast at * <;> constructor <;> linarith

theorem nearestNear {x : ℚ} (nonneg : 0 ≤ x) : |(nearest x : ℚ) - x| ≤ 1 / 2 := by
  obtain ⟨above, below⟩ := nearestBounds nonneg
  rw [abs_le]
  constructor <;> linarith

theorem nearestMono {x y : ℚ} (le : x ≤ y) : nearest x ≤ nearest y := by
  rcases (Nat.floor_mono le).lt_or_eq with less | same
  · have up : nearest x ≤ ⌊x⌋₊ + 1 := by
      unfold nearest
      split_ifs <;> omega
    have down : ⌊y⌋₊ ≤ nearest y := by
      unfold nearest
      split_ifs <;> omega
    omega
  · unfold nearest
    rw [← same]
    split_ifs <;> first | omega | (exfalso; linarith)

theorem nearestCast (n : Nat) : nearest n = n := by
  unfold nearest
  rw [Nat.floor_natCast, sub_self, if_pos (by norm_num)]

theorem nearestBetween {x : ℚ} {j : Nat} (above : j < 2 * x) (below : 2 * x < j + 1) :
    nearest x = (j + 1) / 2 := by
  have nonneg : 0 ≤ x := by
    have : (0 : ℚ) ≤ j := Nat.cast_nonneg j
    linarith
  obtain ⟨up, down⟩ := nearestBounds nonneg
  have left : j < 2 * nearest x + 1 := by exact_mod_cast above.trans_le up
  have right : 2 * nearest x < j + 1 + 1 := by
    have : (2 : ℚ) * nearest x < j + 1 + 1 := by linarith
    exact_mod_cast this
  omega

theorem divideHalfEvenNearest (n : Nat) {d : Nat} (positive : 0 < d) :
    divideHalfEven n d = nearest (n / d) := by
  have whole : ⌊(n : ℚ) / d⌋₊ = n / d := Nat.floor_div_eq_div n d
  have split : (n : ℚ) / d - (n / d : ℕ) = (n % d : ℕ) / d := by
    have parts : (d : ℚ) * (n / d : ℕ) + (n % d : ℕ) = n := by exact_mod_cast Nat.div_add_mod n d
    field_simp
    linarith
  have scale : (0 : ℚ) < d := by exact_mod_cast positive
  have less : ((n % d : ℕ) : ℚ) / d < 1 / 2 ↔ 2 * (n % d) < d := by
    rw [div_lt_div_iff₀ scale two_pos]
    norm_cast
    omega
  have more : 1 / 2 < ((n % d : ℕ) : ℚ) / d ↔ d < 2 * (n % d) := by
    rw [div_lt_div_iff₀ two_pos scale]
    norm_cast
    omega
  unfold divideHalfEven nearest
  simp only [whole, split, less, more]
  split_ifs <;> omega

theorem powerLeIff {x : ℚ} (positive : 0 < x) {k : Int} : 10 ^ k ≤ x ↔ k ≤ Int.log 10 x := by
  exact_mod_cast Int.zpow_le_iff_le_log (b := 10) (by norm_num) positive

theorem ltPowerIff {x : ℚ} (positive : 0 < x) {k : Int} : x < 10 ^ k ↔ Int.log 10 x < k := by
  rw [← not_le, powerLeIff positive, not_le]

theorem logMagnitude {c : Nat} (nonzero : c ≠ 0) (e : Int) :
    Int.log 10 (magnitude c e) = adjusted c e := by
  have positive := magnitudePos nonzero e
  apply le_antisymm
  · exact (magnitudeGeIff nonzero).mp ((powerLeIff positive).mpr le_rfl)
  · exact (powerLeIff positive).mp ((magnitudeGeIff nonzero).mpr le_rfl)

def lastPlace (x : ℚ) : Int := lastExponent (Int.log 10 x)

def toPrecision (x : ℚ) : ℚ := nearest (x / 10 ^ lastPlace x) * 10 ^ lastPlace x

theorem lastPlaceMono {x y : ℚ} (positive : 0 < x) (le : x ≤ y) : lastPlace x ≤ lastPlace y := by
  have := Int.log_mono_right (b := 10) positive le
  unfold lastPlace lastExponent
  omega

theorem toPrecisionNonneg (x : ℚ) : 0 ≤ toPrecision x := by
  unfold toPrecision
  positivity

@[simp] theorem toPrecisionZero : toPrecision 0 = 0 := by
  unfold toPrecision
  have none := nearestCast 0
  rw [Nat.cast_zero] at none
  rw [zero_div, none, Nat.cast_zero, zero_mul]

theorem scaledCoefficient (q : Nat) {last f : Int} (le : last ≤ f) :
    ∃ m : Nat, magnitude q f = m * 10 ^ last := by
  obtain ⟨j, rfl⟩ : ∃ j : Nat, f = last + j := ⟨(f - last).toNat, by omega⟩
  exact ⟨q * 10 ^ j, (magnitudeShift q j last).symm⟩

theorem toPrecisionLe {x : ℚ} {q : Nat} {f : Int} (last : lastPlace x ≤ f)
    (le : x ≤ magnitude q f) : toPrecision x ≤ magnitude q f := by
  obtain ⟨m, scaled⟩ := scaledCoefficient q last
  have power : (0 : ℚ) < 10 ^ lastPlace x := by positivity
  rw [scaled] at le ⊢
  have kept : nearest (x / 10 ^ lastPlace x) ≤ m := by
    rw [← nearestCast m]
    exact nearestMono ((div_le_iff₀ power).mpr le)
  unfold toPrecision
  gcongr

theorem toPrecisionGe {x : ℚ} {q : Nat} {f : Int} (last : lastPlace x ≤ f)
    (ge : magnitude q f ≤ x) : magnitude q f ≤ toPrecision x := by
  obtain ⟨m, scaled⟩ := scaledCoefficient q last
  have power : (0 : ℚ) < 10 ^ lastPlace x := by positivity
  rw [scaled] at ge ⊢
  have kept : m ≤ nearest (x / 10 ^ lastPlace x) := by
    rw [← nearestCast m]
    exact nearestMono ((le_div_iff₀ power).mpr ge)
  unfold toPrecision
  gcongr

theorem toPrecisionMono {x y : ℚ} (nonneg : 0 ≤ x) (le : x ≤ y) :
    toPrecision x ≤ toPrecision y := by
  rcases nonneg.lt_or_eq with positive | rfl
  swap
  · rw [toPrecisionZero]
    exact toPrecisionNonneg y
  rcases (lastPlaceMono positive le).lt_or_eq with shorter | same
  · have lead : lastPlace y = Int.log 10 y - (precision - 1) := by
      have : minExponent ≤ lastPlace x := le_max_left ..
      unfold lastPlace lastExponent at shorter this ⊢
      omega
    have apart : Int.log 10 x < Int.log 10 y := by
      unfold lastPlace lastExponent at shorter
      omega
    unfold precision at lead
    calc toPrecision x ≤ magnitude 1 (Int.log 10 y) := by
          apply toPrecisionLe (by omega)
          rw [magnitudeOne]
          exact ((ltPowerIff positive).mpr apart).le
      _ ≤ toPrecision y := by
          apply toPrecisionGe (by omega)
          rw [magnitudeOne]
          exact (powerLeIff (positive.trans_le le)).mpr le_rfl
  · unfold toPrecision
    rw [← same]
    have kept : nearest (x / 10 ^ lastPlace x) ≤ nearest (y / 10 ^ lastPlace x) :=
      nearestMono (by gcongr)
    gcongr

section
variable {x : ℚ} {q : Nat} {f : Int} (few : q < 10 ^ precision) (low : minExponent ≤ f)
include few low

theorem lastPlaceFits (positive : 0 < x) (le : x ≤ magnitude q f) : lastPlace x ≤ f := by
  have below : x < 10 ^ (f + precision) := by
    rw [← magnitudePower]
    exact le.trans_lt (magnitudeLtIffCoefficient.mpr few)
  have lead := (ltPowerIff positive).mp below
  unfold lastPlace lastExponent
  omega

theorem toPrecisionFixed : toPrecision (magnitude q f) = magnitude q f := by
  by_cases zero : q = 0
  · rw [zero, magnitudeZero, toPrecisionZero]
  · have last := lastPlaceFits few low (magnitudePos zero f) le_rfl
    exact le_antisymm (toPrecisionLe last le_rfl) (toPrecisionGe last le_rfl)

theorem toPrecisionLeFitting (nonneg : 0 ≤ x) (le : x ≤ magnitude q f) :
    toPrecision x ≤ magnitude q f :=
  (toPrecisionMono nonneg le).trans_eq (toPrecisionFixed few low)

theorem toPrecisionGeFitting (ge : magnitude q f ≤ x) : magnitude q f ≤ toPrecision x :=
  (toPrecisionFixed few low).symm.trans_le (toPrecisionMono (magnitudeNonneg q f) ge)

end

theorem toPrecisionNear {x : ℚ} (nonneg : 0 ≤ x) :
    |toPrecision x - x| ≤ 10 ^ lastPlace x / 2 := by
  have power : (0 : ℚ) < 10 ^ lastPlace x := by positivity
  have scaled : toPrecision x - x =
      (nearest (x / 10 ^ lastPlace x) - x / 10 ^ lastPlace x) * 10 ^ lastPlace x := by
    unfold toPrecision
    field_simp
  have near := mul_le_mul_of_nonneg_right (nearestNear (div_nonneg nonneg power.le)) power.le
  rw [scaled, abs_mul, abs_of_pos power]
  linarith

theorem toPrecisionError {x : ℚ} (normal : 10 ^ (minExponent + (precision - 1)) ≤ x) :
    |toPrecision x - x| ≤ x / (2 * 10 ^ (precision - 1)) := by
  have positive : 0 < x := lt_of_lt_of_le (by positivity) normal
  have lead := (powerLeIff positive).mp normal
  have last : lastPlace x + (precision - 1 : Nat) = Int.log 10 x := by
    unfold lastPlace lastExponent precision at *
    omega
  have scaled : (10 : ℚ) ^ lastPlace x * 10 ^ (precision - 1) ≤ x := by
    rw [← zpow_natCast, ← zpow_add₀ (by norm_num), last]
    exact (powerLeIff positive).mpr le_rfl
  calc |toPrecision x - x| ≤ 10 ^ lastPlace x / 2 := toPrecisionNear positive.le
    _ ≤ x / (2 * 10 ^ (precision - 1)) := by
        rw [div_le_div_iff₀ (by norm_num) (by positivity)]
        linarith

theorem dropDigitsNearest (c : Nat) {e last : Int} (dropped : e ≤ last) :
    dropDigits c (last - e).toNat = nearest (magnitude c e / 10 ^ last) := by
  obtain ⟨j, rfl⟩ : ∃ j : Nat, last = e + j := ⟨(last - e).toNat, by omega⟩
  have quotient : magnitude c e / 10 ^ (e + j) = c / (10 ^ j : Nat) := by
    unfold magnitude
    rw [zpow_add₀ (by norm_num), zpow_natCast]
    push_cast
    field_simp
  have shift : (e + j - e).toNat = j := by omega
  rw [quotient, shift, dropDigits, Nat.pow_eq, ← divideHalfEvenNearest c (by positivity)]
  split
  · rename_i short
    have count := digitCountPos c
    have small : c < 10 ^ (j - 1) := (digitCountLeIff (by omega)).mp (by omega)
    have tenth : 10 ^ j = 10 * 10 ^ (j - 1) := by
      rw [← pow_succ']
      congr 1
      omega
    unfold divideHalfEven
    rw [Nat.mod_eq_of_lt (by omega), Nat.div_eq_of_lt (by omega), if_pos (by omega)]
  · rfl

theorem roundFinite (n : Bool) {c : Nat} {e : Int}
    (small : toPrecision (magnitude c e) < 10 ^ (maxExponent + 1)) :
    ∃ c' e', round n c e = .ok (.finite n c' e') ∧
      magnitude c' e' = toPrecision (magnitude c e) := by
  unfold round
  by_cases zero : c = 0
  · rw [if_pos zero]
    exact ⟨_, _, rfl, by rw [zero, magnitudeZero, magnitudeZero, toPrecisionZero]⟩
  have last : lastPlace (magnitude c e) = lastExponent (adjusted c e) := by
    rw [lastPlace, logMagnitude zero]
  have lead : adjusted c e ≤ maxExponent := by
    by_contra large
    rw [← magnitudeOne] at small
    refine small.not_ge (toPrecisionGeFitting (by decide) (by decide) ?_)
    rw [magnitudeOne, magnitudeGeIff zero]
    omega
  rw [if_neg zero]
  dsimp only
  rw [if_neg (by omega), ← last]
  split
  · exact ⟨c, e, rfl, le_antisymm (toPrecisionGe (by assumption) le_rfl)
      (toPrecisionLe (by assumption) le_rfl)⟩
  have dropped : e ≤ lastPlace (magnitude c e) := by omega
  rw [dropDigitsNearest c dropped]
  split
  · rename_i carried
    have result : toPrecision (magnitude c e) = 10 ^ (lastPlace (magnitude c e) + precision) := by
      rw [toPrecision, carried, Nat.pow_eq, ← magnitudePower]
      rfl
    rw [result, zpow_lt_zpow_iff_right₀ (by norm_num)] at small
    have least : adjusted c e - (precision - 1) ≤ lastPlace (magnitude c e) := by
      rw [last]
      exact le_max_right ..
    rw [if_neg (by unfold precision at *; omega)]
    refine ⟨_, _, rfl, ?_⟩
    rw [result, Nat.pow_eq, magnitudePower]
    congr 1
    unfold precision
    omega
  · exact ⟨_, _, rfl, rfl⟩

end QuorumRate.Decimal
