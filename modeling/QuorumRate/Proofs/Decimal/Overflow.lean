import QuorumRate.Proofs.Decimal.Sum

/-! Where the arithmetic overflows: where the twenty-eight leading digits of the exact result do not
stay below the largest power of ten. The half of a number that is held never does. -/
namespace QuorumRate.Decimal

def toSignificant (x : ℚ) : ℚ :=
  nearest (x / 10 ^ (Int.log 10 x - (precision - 1))) * 10 ^ (Int.log 10 x - (precision - 1))

theorem toSignificantNormal {x : ℚ} (normal : minExponent + (precision - 1) ≤ Int.log 10 x) :
    toPrecision x = toSignificant x := by
  unfold toPrecision toSignificant lastPlace lastExponent
  rw [max_eq_right (by omega)]

theorem nearestLe {x : ℚ} {n : Nat} (le : x ≤ n) : nearest x ≤ n := by
  rw [← nearestCast n]
  exact nearestMono le

theorem keptLe {x : ℚ} {last : Int} (le : x ≤ 10 ^ (last + precision)) :
    nearest (x / 10 ^ last) ≤ 10 ^ precision := by
  have power : (0 : ℚ) < 10 ^ last := by positivity
  rw [← magnitudePower] at le
  exact nearestLe ((div_le_iff₀ power).mpr le)

theorem toSignificantLe {x : ℚ} (positive : 0 < x) :
    toSignificant x ≤ 10 ^ (Int.log 10 x + 1) := by
  have top : Int.log 10 x - (precision - 1) + precision = Int.log 10 x + 1 := by omega
  have below := (ltPowerIff positive).mpr (Int.lt_succ (Int.log 10 x))
  rw [← top] at below ⊢
  rw [← magnitudePower]
  exact magnitudeLe _ (keptLe below.le)

theorem overflowIff {x : ℚ} (nonneg : 0 ≤ x) :
    10 ^ (maxExponent + 1) ≤ toSignificant x ↔ 10 ^ (maxExponent + 1) ≤ toPrecision x := by
  rcases nonneg.lt_or_eq with positive | rfl
  swap
  · have none := nearestCast 0
    rw [Nat.cast_zero] at none
    rw [toPrecisionZero, toSignificant, zero_div, none, Nat.cast_zero, zero_mul]
  by_cases normal : minExponent + (precision - 1) ≤ Int.log 10 x
  · rw [toSignificantNormal normal]
  have tiny : Int.log 10 x + 1 < maxExponent + 1 := by
    unfold minExponent precision at normal
    unfold maxExponent
    omega
  have bound : (10 : ℚ) ^ (Int.log 10 x + 1) < 10 ^ (maxExponent + 1) :=
    zpow_lt_zpow_right₀ (by norm_num) tiny
  have fine : toPrecision x < 10 ^ (maxExponent + 1) := by
    have least : x ≤ magnitude 1 (minExponent + (precision - 1)) := by
      rw [magnitudeOne]
      exact ((ltPowerIff positive).mpr (not_le.mp normal)).le
    refine (toPrecisionLeFitting (by decide) (by decide) nonneg least).trans_lt ?_
    rw [magnitudeOne]
    exact zpow_lt_zpow_right₀ (by norm_num) (by decide)
  have significant := (toSignificantLe positive).trans_lt bound
  exact iff_of_false (not_le.mpr significant) (not_le.mpr fine)

theorem absValue (n : Bool) (c : Nat) (e : Int) : |value (.finite n c e)| = magnitude c e := by
  have nonneg := magnitudeNonneg c e
  cases n with
  | false => exact abs_of_nonneg nonneg
  | true => exact (abs_neg _).trans (abs_of_nonneg nonneg)

theorem roundOverflows (n : Bool) {c : Nat} {e : Int}
    (large : 10 ^ (maxExponent + 1) ≤ toPrecision (magnitude c e)) :
    round n c e = .error .overflow := by
  have nonzero : c ≠ 0 := by
    rintro rfl
    rw [magnitudeZero, toPrecisionZero] at large
    exact absurd large (not_le.mpr (by positivity))
  have last : lastPlace (magnitude c e) = lastExponent (adjusted c e) := by
    rw [lastPlace, logMagnitude nonzero]
  unfold round
  rw [if_neg nonzero]
  dsimp only
  split
  · rfl
  rename_i lead
  have room : lastExponent (adjusted c e) + precision ≤ maxExponent + 1 := by
    unfold lastExponent minExponent precision
    unfold maxExponent at lead ⊢
    omega
  have below : magnitude c e < 10 ^ (maxExponent + 1) := (magnitudeLtIff nonzero).mpr (by omega)
  split
  · rename_i fits
    exact absurd ((toPrecisionLe (last.trans_le fits) le_rfl).trans_lt below) (not_lt.mpr large)
  rename_i dropped
  rw [dropDigitsNearest c (not_le.mp dropped).le]
  have result : toPrecision (magnitude c e) =
      magnitude (nearest (magnitude c e / 10 ^ lastExponent (adjusted c e)))
        (lastExponent (adjusted c e)) := by
    rw [toPrecision, last]
    rfl
  split
  · rename_i carried
    rw [if_pos]
    rw [result, carried, Nat.pow_eq, magnitudePower, zpow_le_zpow_iff_right₀ (by norm_num)] at large
    unfold lastExponent minExponent precision at large
    unfold maxExponent at large ⊢
    omega
  · rename_i uncarried
    have few : nearest (magnitude c e / 10 ^ lastExponent (adjusted c e)) < 10 ^ precision := by
      refine lt_of_le_of_ne (keptLe ?_) uncarried
      refine ((magnitudeLtIff nonzero).mpr ?_).le
      unfold lastExponent
      omega
    have less : toPrecision (magnitude c e) < 10 ^ (maxExponent + 1) := by
      calc toPrecision (magnitude c e)
          < magnitude (10 ^ precision) (lastExponent (adjusted c e)) :=
            result.trans_lt (magnitudeLtIffCoefficient.mpr few)
        _ = 10 ^ (lastExponent (adjusted c e) + precision) := magnitudePower ..
        _ ≤ 10 ^ (maxExponent + 1) := zpow_le_zpow_right₀ (by norm_num) room
    exact absurd less (not_lt.mpr large)

theorem roundHeld (n : Bool) {c : Nat} {e : Int}
    (small : toPrecision (magnitude c e) < 10 ^ (maxExponent + 1)) :
    ∃ d, round n c e = .ok d ∧ d.isFinite = true ∧ |d.value| = toPrecision (magnitude c e) := by
  obtain ⟨c', e', result, kept⟩ := roundFinite n small
  exact ⟨_, result, rfl, (absValue n c' e').trans kept⟩

section
variable {a b : Decimal} (left : a.isFinite) (right : b.isFinite)
include left right

theorem addRounds : ∃ n c e, add a b = round n c e ∧ magnitude c e = |a.value + b.value| := by
  cases a <;> cases b <;> try contradiction
  case finite.finite n c e n' c' e' =>
    obtain ⟨m, k, f, result, exact⟩ := addValue n n' c c' e e'
    exact ⟨m, k, f, result, by rw [← exact, absValue]⟩

theorem addOverflows (large : 10 ^ (maxExponent + 1) ≤ toPrecision |a.value + b.value|) :
    add a b = .error .overflow := by
  obtain ⟨n, c, e, result, exact⟩ := addRounds left right
  rw [← exact] at large
  rw [result, roundOverflows n large]

theorem addHeld (small : toPrecision |a.value + b.value| < 10 ^ (maxExponent + 1)) :
    ∃ sum, add a b = .ok sum ∧ sum.isFinite = true ∧
      |sum.value| = toPrecision |a.value + b.value| := by
  obtain ⟨n, c, e, result, exact⟩ := addRounds left right
  rw [result, ← exact]
  rw [← exact] at small
  exact roundHeld n small

end

theorem halfHeld {a : Decimal} (finite : a.isFinite)
    (small : |a.value| < 10 ^ (maxExponent + 1)) :
    ∃ middle, half a = .ok middle ∧ middle.isFinite = true := by
  cases a <;> try contradiction
  case finite n c e =>
    obtain ⟨c', e', result, exact⟩ := halfExact n c e
    have halved : magnitude c' e' ≤ magnitude 5 maxExponent := by
      rw [← absValue n, exact, abs_div, abs_two, magnitude]
      rw [zpow_add_one₀ (by norm_num)] at small
      push_cast
      linarith
    have held : toPrecision (magnitude c' e') < 10 ^ (maxExponent + 1) :=
      (toPrecisionLeFitting (by decide) (by decide) (magnitudeNonneg ..) halved).trans_lt
        ((magnitudeLtIff (by decide)).mpr (by decide))
    obtain ⟨middle, rounded, finite, _⟩ := roundHeld n held
    exact ⟨middle, result.trans rounded, finite⟩

end QuorumRate.Decimal
