import QuorumRate.Proofs.Decimal.Rounding

/-! Sums and halves as one rounding of the exact number. Where a far smaller addend is replaced by a
stand-in, the exact sum and the one that is rounded lie strictly between the same two neighbouring
halves of a place that rounding drops, and no step of the rounding tells them apart. -/
namespace QuorumRate.Decimal

theorem roundAlike (n : Bool) {c c' : Nat} {e e' last : Int} (nonzero : c ≠ 0) (nonzero' : c' ≠ 0)
    (place : lastPlace (magnitude c e) = last)
    (log : Int.log 10 (magnitude c e) = Int.log 10 (magnitude c' e'))
    (kept : nearest (magnitude c e / 10 ^ last) = nearest (magnitude c' e' / 10 ^ last))
    (dropped : e < last) (dropped' : e' < last) : round n c e = round n c' e' := by
  rw [lastPlace, logMagnitude nonzero] at place
  rw [logMagnitude nonzero, logMagnitude nonzero'] at log
  rw [← dropDigitsNearest c dropped.le, ← dropDigitsNearest c' dropped'.le] at kept
  unfold round
  rw [if_neg nonzero, if_neg nonzero']
  dsimp only
  rw [← log, place, if_neg (not_le.mpr dropped), if_neg (not_le.mpr dropped'), kept]

def Between (g : Int) (k : Nat) (x : ℚ) : Prop := k * 10 ^ g < 2 * x ∧ 2 * x < (k + 1) * 10 ^ g

section
variable {g : Int} {k : Nat} {x y : ℚ} (wide : 2 * 10 ^ (precision - 1) ≤ k)
include wide

theorem betweenPower (inside : Between g k x) : 10 ^ (g + (precision - 1 : Nat)) ≤ x := by
  have many : (2 : ℚ) * 10 ^ (precision - 1) ≤ k := by exact_mod_cast wide
  have power : (0 : ℚ) < 10 ^ g := by positivity
  have scaled := mul_le_mul_of_nonneg_right many power.le
  rw [zpow_add₀ (by norm_num), zpow_natCast]
  linarith [inside.1]

theorem betweenPos (inside : Between g k x) : 0 < x :=
  lt_of_lt_of_le (by positivity) (betweenPower wide inside)

theorem betweenLead (inside : Between g k x) : g + (precision - 1 : Nat) ≤ Int.log 10 x :=
  (powerLeIff (betweenPos wide inside)).mp (betweenPower wide inside)

theorem betweenLogLe (left : Between g k x) (right : Between g k y) :
    Int.log 10 y ≤ Int.log 10 x := by
  by_contra apart
  have lead := betweenLead wide right
  have low := (ltPowerIff (betweenPos wide left)).mpr (not_le.mp apart)
  have high := (powerLeIff (betweenPos wide right)).mpr le_rfl
  obtain ⟨j, eq⟩ : ∃ j : Nat, Int.log 10 y = g + j := ⟨(Int.log 10 y - g).toNat, by omega⟩
  have power : (0 : ℚ) < 10 ^ g := by positivity
  rw [eq, zpow_add₀ (by norm_num), zpow_natCast] at low high
  have grid : k < 2 * 10 ^ j := by
    have : (k : ℚ) * 10 ^ g < (2 * 10 ^ j) * 10 ^ g := by linarith [left.1]
    exact_mod_cast lt_of_mul_lt_mul_right this power.le
  have next : (k + 1 : ℚ) ≤ 2 * 10 ^ j := by exact_mod_cast grid
  have := mul_le_mul_of_nonneg_right next power.le
  linarith [right.2]

theorem betweenLog (left : Between g k x) (right : Between g k y) :
    Int.log 10 x = Int.log 10 y :=
  le_antisymm (betweenLogLe wide right left) (betweenLogLe wide left right)

end

theorem betweenNearest {g : Int} {k : Nat} {x : ℚ} (j : Nat) (inside : Between g k x) :
    nearest (x / 10 ^ (g + j)) = (k / 10 ^ j + 1) / 2 := by
  obtain ⟨above, below⟩ := inside
  have grid : (0 : ℚ) < 10 ^ g := by positivity
  have coarse : (0 : ℚ) < 10 ^ j := by positivity
  have floor : ((k / 10 ^ j : ℕ) : ℚ) * 10 ^ j ≤ k := by
    exact_mod_cast Nat.div_mul_le_self k (10 ^ j)
  have ceiling : (k + 1 : ℚ) ≤ ((k / 10 ^ j : ℕ) + 1) * 10 ^ j := by
    rw [mul_comm]
    exact_mod_cast Nat.lt_mul_div_succ k (b := 10 ^ j) (by positivity)
  have scaled : 2 * (x / 10 ^ (g + j)) = 2 * x / 10 ^ g / 10 ^ j := by
    rw [zpow_add₀ (by norm_num), zpow_natCast]
    field_simp
  apply nearestBetween
  · rw [scaled, lt_div_iff₀ coarse]
    exact floor.trans_lt ((lt_div_iff₀ grid).mpr above)
  · rw [scaled, div_lt_iff₀ coarse]
    exact ((div_lt_iff₀ grid).mpr below).trans_le ceiling

theorem roundBetween (n : Bool) {c c' k : Nat} {e e' g : Int}
    (wide : 2 * 10 ^ (precision - 1) ≤ k) (left : Between g k (magnitude c e))
    (right : Between g k (magnitude c' e')) (dropped : e < g) (dropped' : e' < g) :
    round n c e = round n c' e' := by
  have nonzero {c e} (inside : Between g k (magnitude c e)) : c ≠ 0 := by
    rintro rfl
    exact (betweenPos wide inside).ne' (magnitudeZero e)
  have place : g ≤ lastPlace (magnitude c e) := by
    have lead := betweenLead wide left
    unfold lastPlace lastExponent precision at *
    omega
  obtain ⟨j, last⟩ : ∃ j : Nat, lastPlace (magnitude c e) = g + j :=
    ⟨(lastPlace (magnitude c e) - g).toNat, by omega⟩
  apply roundAlike n (nonzero left) (nonzero right) last (betweenLog wide left right)
  · rw [betweenNearest j left, betweenNearest j right]
  · omega
  · omega

def joined (n n' : Bool) (a b : Nat) : Nat := if n = n' then a + b else a - b

theorem joinedMagnitude (n n' : Bool) {a b : Nat} (le : b ≤ a) (e : Int) :
    magnitude (joined n n' a b) e =
      if n = n' then magnitude a e + magnitude b e else magnitude a e - magnitude b e := by
  unfold joined magnitude
  split
  · push_cast
    ring
  · rw [Nat.cast_sub le]
    ring

theorem joinedBetween (n n' : Bool) {a b m : Nat} {e g : Int} (grid : magnitude a e = m * 10 ^ g)
    (positive : 0 < magnitude b e) (small : 2 * magnitude b e < 10 ^ g) (some : 0 < m)
    (le : b ≤ a) :
    Between g (if n = n' then 2 * m else 2 * m - 1) (magnitude (joined n n' a b) e) := by
  rw [joinedMagnitude n n' le, grid]
  split
  · constructor <;> push_cast <;> linarith
  · have less : ((2 * m - 1 : ℕ) : ℚ) = 2 * m - 1 := by
      rw [Nat.cast_sub (by omega)]
      push_cast
      rfl
    rw [Between, less]
    constructor <;> linarith

def roundSum (zeroSign : Bool) (sum : Int) (e : Int) : Except Signal Decimal :=
  round (if sum = 0 then zeroSign else sum < 0) sum.natAbs e

theorem roundDominated (z n n' : Bool) {a b : Nat} (e : Int) (less : b < a) :
    roundSum z (signed n a + signed n' b) e = round n (joined n n' a b) e := by
  have nonzero : signed n a + signed n' b ≠ 0 := by
    unfold signed
    split_ifs <;> omega
  have sign : decide (signed n a + signed n' b < 0) = n := by
    cases n <;> cases n' <;> simp [signed] <;> omega
  have size : (signed n a + signed n' b).natAbs = joined n n' a b := by
    cases n <;> cases n' <;> simp [signed, joined] <;> omega
  rw [roundSum, if_neg nonzero, sign, size]

theorem signedMul (n : Bool) (c k : Nat) : signed n c * (k : Int) = signed n (c * k) := by
  cases n <;> simp [signed]

theorem magnitudeAligned (c : Nat) {e f : Int} (le : f ≤ e) :
    magnitude (c * 10 ^ (e - f).toNat) f = magnitude c e := by
  rw [magnitudeShift]
  congr 1
  omega

theorem stickyGrid {c : Nat} (nonzero : c ≠ 0) (e : Int) :
    ∃ m : Nat, 10 ^ precision ≤ m ∧ magnitude c e = m * 10 ^ (stickyExponent c e + 1) := by
  have room : stickyExponent c e + 1 ≤ e ∧
      stickyExponent c e + 1 + precision ≤ adjusted c e := by
    unfold stickyExponent adjusted precision
    split <;> omega
  obtain ⟨m, grid⟩ := scaledCoefficient c room.1
  refine ⟨m, ?_, grid⟩
  have large := (magnitudeGeIff nonzero).mpr room.2
  have power : (0 : ℚ) < 10 ^ (stickyExponent c e + 1) := by positivity
  rw [grid, add_comm, zpow_add₀ (by norm_num), zpow_natCast] at large
  exact_mod_cast le_of_mul_le_mul_right large power

theorem stickyExponentLt (c : Nat) (e : Int) : stickyExponent c e < e := by
  unfold stickyExponent precision
  split <;> omega

section
variable {c c' : Nat} {e e' : Int} (sticky : adjusted c' e' < stickyExponent c e)
include sticky

theorem belowSticky : e' < stickyExponent c e := by
  have count := digitCountPos c'
  unfold adjusted at sticky
  omega

theorem addendBelowSticky : magnitude c' e' < 10 ^ stickyExponent c e := by
  by_cases zero : c' = 0
  · rw [zero, magnitudeZero]
    positivity
  · exact (magnitudeLtIff zero).mpr sticky

variable (nonzero : c ≠ 0)
include nonzero

theorem addendDominated : c' < c * 10 ^ (e - e').toNat := by
  have below := belowSticky sticky
  have above := stickyExponentLt c e
  rw [← magnitudeLtIffCoefficient (e := e')]
  calc magnitude c' e' < 10 ^ stickyExponent c e := addendBelowSticky sticky
    _ ≤ 10 ^ e := zpow_le_zpow_right₀ (by norm_num) above.le
    _ = magnitude 1 e := (magnitudeOne e).symm
    _ ≤ magnitude c e := magnitudeLe e (Nat.one_le_iff_ne_zero.mpr nonzero)
    _ = magnitude (c * 10 ^ (e - e').toNat) e' := (magnitudeAligned c (by omega)).symm

omit sticky in
theorem standInDominated : min c' 1 < c * 10 ^ (e - stickyExponent c e).toNat := by
  have above := stickyExponentLt c e
  calc min c' 1 ≤ 1 := min_le_right ..
    _ < 10 ^ (e - stickyExponent c e).toNat := Nat.one_lt_pow (by omega) (by norm_num)
    _ ≤ c * 10 ^ (e - stickyExponent c e).toNat :=
      Nat.le_mul_of_pos_left _ (Nat.pos_of_ne_zero nonzero)

theorem zeroAlike (n : Bool) :
    round n (c * 10 ^ (e - e').toNat) e' =
      round n (c * 10 ^ (e - stickyExponent c e).toNat) (stickyExponent c e) := by
  have low := belowSticky sticky
  have high := stickyExponentLt c e
  have left := magnitudeAligned c (e := e) (f := e') (by omega)
  have right := magnitudeAligned c high.le
  have place : stickyExponent c e < lastPlace (magnitude c e) := by
    rw [lastPlace, logMagnitude nonzero]
    unfold lastExponent stickyExponent adjusted precision
    split <;> omega
  have positive := Nat.pos_of_ne_zero nonzero
  apply roundAlike n (by positivity) (by positivity) rfl
  · rw [left, right]
  · rw [left, right]
  · rw [left]
    omega
  · rwa [left]

theorem standInAlike (n n' : Bool) :
    round n (joined n n' (c * 10 ^ (e - e').toNat) c') e' =
      round n (joined n n' (c * 10 ^ (e - stickyExponent c e).toNat) (min c' 1))
        (stickyExponent c e) := by
  by_cases zero : c' = 0
  · have same := zeroAlike sticky nonzero n
    simpa only [joined, zero, Nat.zero_min, Nat.add_zero, Nat.sub_zero, ite_self] using same
  have low := belowSticky sticky
  have high := stickyExponentLt c e
  have below := addendBelowSticky sticky
  -- The larger addend lies on the grid, and neither smaller one reaches half a step of it.
  obtain ⟨m, many, grid⟩ := stickyGrid nonzero e
  have wide : 2 * 10 ^ (precision - 1) ≤ if n = n' then 2 * m else 2 * m - 1 := by
    unfold precision at many ⊢
    split <;> omega
  have tenth : (10 : ℚ) ^ (stickyExponent c e + 1) = 10 ^ stickyExponent c e * 10 :=
    zpow_add_one₀ (by norm_num) _
  have power : (0 : ℚ) < 10 ^ stickyExponent c e := by positivity
  have one : magnitude (min c' 1) (stickyExponent c e) = 10 ^ stickyExponent c e := by
    rw [Nat.min_eq_right (Nat.one_le_iff_ne_zero.mpr zero), magnitudeOne]
  have some : 0 < m := lt_of_lt_of_le (by positivity) many
  apply roundBetween n wide
  · exact joinedBetween n n' ((magnitudeAligned c (by omega)).trans grid) (magnitudePos zero e')
      (by linarith) some (addendDominated sticky nonzero).le
  · exact joinedBetween n n' ((magnitudeAligned c high.le).trans grid) (by linarith)
      (by linarith) some (standInDominated nonzero).le
  · omega
  · omega

end

theorem addAlignedExact (n n' : Bool) (c c' : Nat) (e e' : Int) :
    addAligned n c e n' c' e' =
      roundSum (n && n') (signed n (c * 10 ^ (e - e').toNat) + signed n' c') e' := by
  unfold addAligned standIn
  by_cases zero : c = 0
  · simp [zero, signed, roundSum]
  by_cases sticky : adjusted c' e' < stickyExponent c e
  · rw [roundDominated _ n n' e' (addendDominated sticky zero), standInAlike sticky zero,
      ← roundDominated (n && n') n n' _ (standInDominated zero)]
    simp only [zero, sticky, ne_eq, not_false_eq_true, and_self, if_true, if_false, ← signedMul,
      Nat.pow_eq, roundSum]
  · simp only [zero, sticky, ne_eq, not_false_eq_true, and_false, if_false, ← signedMul,
      Nat.pow_eq, roundSum]

theorem addExact (n n' : Bool) (c c' : Nat) (e e' : Int) :
    add (.finite n c e) (.finite n' c' e') =
      roundSum (n && n') (signed n (c * 10 ^ (e - min e e').toNat) +
        signed n' (c' * 10 ^ (e' - min e e').toNat)) (min e e') := by
  unfold add passNaN
  dsimp only
  split
  · rename_i aligned
    rw [addAlignedExact, min_eq_right aligned, sub_self, Int.toNat_zero, pow_zero, mul_one]
  · rename_i aligned
    have less := (not_le.mp aligned).le
    rw [addAlignedExact, min_eq_left less, sub_self, Int.toNat_zero, pow_zero, mul_one,
      Bool.and_comm, add_comm (signed n' _)]

theorem signedValue (n : Bool) (c : Nat) (e : Int) :
    value (.finite n c e) = signed n c * 10 ^ e := by
  cases n <;> simp [value, magnitude, signed]

theorem alignedValue (n : Bool) (c : Nat) {e f : Int} (le : f ≤ e) :
    value (.finite n (c * 10 ^ (e - f).toNat) f) = value (.finite n c e) := by
  simp only [value, magnitudeAligned c le]

theorem sumValue (z : Bool) (sum e : Int) :
    value (.finite (if sum = 0 then z else sum < 0) sum.natAbs e) = sum * 10 ^ e := by
  have exact : signed (decide (sum < 0)) sum.natAbs = sum := by
    unfold signed
    simp only [decide_eq_true_eq]
    split <;> omega
  split
  · rename_i zero
    rw [zero, Int.natAbs_zero, valueZero, Int.cast_zero, zero_mul]
  · rw [signedValue, exact]

theorem roundValue (n : Bool) {c : Nat} {e : Int} (nonneg : 0 ≤ value (.finite n c e))
    (small : toPrecision (value (.finite n c e)) < 10 ^ (maxExponent + 1)) :
    ∃ d, round n c e = .ok d ∧ d.isFinite = true ∧
      d.value = toPrecision (value (.finite n c e)) := by
  cases n with
  | false =>
    obtain ⟨c', e', result, kept⟩ := roundFinite false small
    exact ⟨_, result, rfl, kept⟩
  | true =>
    have zero : magnitude c e = 0 := by
      have := magnitudeNonneg c e
      simp only [value, if_true] at nonneg
      linarith
    obtain ⟨c', e', result, kept⟩ := roundFinite true (c := c) (e := e) (by
      rw [zero, toPrecisionZero]
      positivity)
    refine ⟨_, result, rfl, ?_⟩
    simp [value, kept, zero]

theorem addValue (n n' : Bool) (c c' : Nat) (e e' : Int) :
    ∃ m k f, add (.finite n c e) (.finite n' c' e') = round m k f ∧
      value (.finite m k f) = value (.finite n c e) + value (.finite n' c' e') := by
  have exact := sumValue (n && n') (signed n (c * 10 ^ (e - min e e').toNat) +
    signed n' (c' * 10 ^ (e' - min e e').toNat)) (min e e')
  rw [Int.cast_add, add_mul, ← signedValue, ← signedValue, alignedValue n c (min_le_left ..),
    alignedValue n' c' (min_le_right ..)] at exact
  exact ⟨_, _, _, addExact n n' c c' e e', exact⟩

theorem addFinite {a b : Decimal} (left : a.isFinite) (right : b.isFinite)
    (nonneg : 0 ≤ a.value + b.value)
    (small : toPrecision (a.value + b.value) < 10 ^ (maxExponent + 1)) :
    ∃ sum, add a b = .ok sum ∧ sum.isFinite = true ∧
      sum.value = toPrecision (a.value + b.value) := by
  cases a <;> cases b <;> try contradiction
  case finite.finite n c e n' c' e' =>
    obtain ⟨m, k, f, result, exact⟩ := addValue n n' c c' e e'
    rw [result]
    rw [← exact] at nonneg small ⊢
    exact roundValue m nonneg small

theorem magnitudeHalf (c : Nat) (e : Int) : magnitude (5 * c) (e - 1) = magnitude c e / 2 := by
  unfold magnitude
  rw [zpow_sub_one₀ (by norm_num)]
  push_cast
  ring

theorem halfExact (n : Bool) (c : Nat) (e : Int) :
    ∃ c' e', half (.finite n c e) = round n c' e' ∧
      value (.finite n c' e') = value (.finite n c e) / 2 := by
  unfold half
  dsimp only
  split
  · rename_i even
    refine ⟨_, _, rfl, ?_⟩
    obtain ⟨k, rfl⟩ := Nat.dvd_of_mod_eq_zero even
    rw [Nat.mul_div_cancel_left k two_pos]
    simp only [value, magnitude]
    push_cast
    split <;> ring
  · refine ⟨_, _, rfl, ?_⟩
    simp only [value, magnitudeHalf]
    split <;> ring

theorem halfFinite {a : Decimal} (finite : a.isFinite) (nonneg : 0 ≤ a.value)
    (small : toPrecision (a.value / 2) < 10 ^ (maxExponent + 1)) :
    ∃ middle, half a = .ok middle ∧ middle.isFinite = true ∧
      middle.value = toPrecision (a.value / 2) := by
  cases a <;> try contradiction
  case finite n c e =>
    obtain ⟨c', e', result, exact⟩ := halfExact n c e
    rw [result]
    rw [← exact] at small ⊢
    exact roundValue n (exact ▸ by linarith) small

end QuorumRate.Decimal
