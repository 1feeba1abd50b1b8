import QuorumRate.Proofs.Decimal.Sum
import QuorumRate.Proofs.Quote.Accepted

/-! The price of a quote against the exact middle of its sides. Every number on the way stays far
inside the bounds on exponents, so two errors of half a unit of the last digit are all there is. -/
namespace QuorumRate

def Decimal.exponent : Decimal → Int
  | .finite _ _ e => e
  | _ => 0

namespace Quote
open Decimal (magnitude toPrecision toPrecisionLeFitting toPrecisionGeFitting)

def middle (q : Quote) : ℚ := (q.bid.value + q.ask.value) / 2

def rounded (q : Quote) : ℚ := toPrecision (toPrecision (q.bid.value + q.ask.value) / 2)

theorem lowestPlace {k : Nat} {f : Int} (few : k < 10 ^ 27)
    (large : (10 : ℚ) ^ (-28 : Int) ≤ magnitude k f) : Decimal.minExponent ≤ f - 1 := by
  have below : (10 : ℚ) ^ (-28 : Int) < 10 ^ (f + (27 : Nat)) := by
    calc (10 : ℚ) ^ (-28 : Int) ≤ magnitude k f := large
      _ < magnitude (10 ^ 27) f := Decimal.magnitudeLtIffCoefficient.mpr few
      _ = 10 ^ (f + (27 : Nat)) := Decimal.magnitudePower 27 f
  have := (zpow_lt_zpow_iff_right₀ (by norm_num)).mp below
  unfold Decimal.minExponent
  omega

theorem modestFits {x : ℚ} (nonneg : 0 ≤ x) (modest : x ≤ magnitude 2 29) :
    toPrecision x < 10 ^ (Decimal.maxExponent + 1) :=
  (toPrecisionLeFitting (by decide) (by decide) nonneg modest).trans_lt
    ((Decimal.magnitudeLtIff (by decide)).mpr (by decide))

namespace Sound
variable {q : Quote} (sound : q.Sound)
include sound

theorem sumNonneg : 0 ≤ q.bid.value + q.ask.value := add_nonneg sound.bid.nonneg sound.ask.nonneg

theorem sumModest : q.bid.value + q.ask.value ≤ magnitude 2 29 := by
  have bid := sound.bid.small
  have ask := sound.ask.small
  norm_num [magnitude, Amount.maxLead] at *
  linarith

theorem sumLarge (some : ¬ (q.bid.value = 0 ∧ q.ask.value = 0)) :
    magnitude 1 (-28) ≤ q.bid.value + q.ask.value := by
  have bid := sound.bid.nonneg
  have ask := sound.ask.nonneg
  rw [Decimal.magnitudeOne]
  by_cases zero : q.bid.value = 0
  · have large := sound.ask.large fun none => some ⟨zero, none⟩
    unfold Amount.maxLead at large
    linarith
  · have large := sound.bid.large zero
    unfold Amount.maxLead at large
    linarith

theorem sumRoundedModest : toPrecision (q.bid.value + q.ask.value) ≤ magnitude 2 29 :=
  toPrecisionLeFitting (by decide) (by decide) sound.sumNonneg sound.sumModest

theorem sumRoundedLarge (some : ¬ (q.bid.value = 0 ∧ q.ask.value = 0)) :
    magnitude 1 (-28) ≤ toPrecision (q.bid.value + q.ask.value) :=
  toPrecisionGeFitting (by decide) (by decide) (sound.sumLarge some)

theorem price : ∃ price, q.price = .ok price ∧ price.isFinite = true ∧
    price.value = q.rounded := by
  unfold rounded
  have nonneg := Decimal.toPrecisionNonneg (q.bid.value + q.ask.value)
  have modest := sound.sumRoundedModest
  obtain ⟨sum, added, finite, exact⟩ := Decimal.addFinite sound.bid.finite sound.ask.finite
    sound.sumNonneg (modestFits sound.sumNonneg sound.sumModest)
  rw [← exact] at nonneg modest ⊢
  obtain ⟨price, halved, priceFinite, rounded⟩ := Decimal.halfFinite finite nonneg
    (modestFits (by linarith) (by linarith))
  refine ⟨price, ?_, priceFinite, rounded⟩
  unfold Quote.price
  rw [added]
  exact halved

theorem priced : ∃ price, q.price = .ok price ∧ price.isFinite = true := by
  obtain ⟨price, result, finite, _⟩ := sound.price
  exact ⟨price, result, finite⟩

end Sound

section
variable {q : Quote} (sound : q.Sound)
include sound

theorem Sound.roundedBounds (some : ¬ (q.bid.value = 0 ∧ q.ask.value = 0)) :
    5 * 10 ^ (-29 : Int) ≤ q.rounded ∧ q.rounded ≤ 10 ^ 29 := by
  have large := sound.sumRoundedLarge some
  have modest := sound.sumRoundedModest
  have low : magnitude 5 (-29) ≤ toPrecision (q.bid.value + q.ask.value) / 2 := by
    norm_num [magnitude] at *
    linarith
  have high : toPrecision (q.bid.value + q.ask.value) / 2 ≤ magnitude 1 29 := by
    norm_num [magnitude] at *
    linarith
  have below := toPrecisionGeFitting (by decide) (by decide) low
  have above := toPrecisionLeFitting (by decide) (by decide)
    (le_trans (Decimal.magnitudeNonneg ..) low) high
  rw [Decimal.magnitudeOne] at above
  unfold magnitude at below
  exact ⟨mod_cast below, mod_cast above⟩

theorem Sound.roundedError :
    |q.rounded - q.middle| ≤ q.middle / 10 ^ 27 * (1 + 1 / 10 ^ 27) := by
  by_cases none : q.bid.value = 0 ∧ q.ask.value = 0
  · simp [rounded, middle, none.1, none.2]
  have normal {x : ℚ} (large : 10 ^ (-29 : Int) ≤ x) :
      |toPrecision x - x| ≤ x / (2 * 10 ^ 27) :=
    Decimal.toPrecisionError ((zpow_le_zpow_right₀ (by norm_num) (by decide)).trans large)
  have large := sound.sumLarge none
  have roundedLarge := sound.sumRoundedLarge none
  have unit : (0 : ℚ) < 10 ^ (-29 : Int) := by positivity
  have tenfold : magnitude 1 (-28) = 10 * 10 ^ (-29 : Int) := by norm_num [magnitude]
  rw [tenfold] at large roundedLarge
  have sum := normal (x := q.bid.value + q.ask.value) (by linarith)
  have half := normal (x := toPrecision (q.bid.value + q.ask.value) / 2) (by
    rw [le_div_iff₀ two_pos]
    linarith)
  unfold rounded middle
  rw [abs_le] at sum half ⊢
  constructor <;> linarith

theorem Sound.roundedExact {k : Nat} {f : Int} (few : k < 10 ^ 27)
    (same : q.bid.value + q.ask.value = magnitude k f) : q.rounded = q.middle := by
  unfold rounded middle
  rw [same]
  by_cases zero : k = 0
  · rw [zero, Decimal.magnitudeZero, Decimal.toPrecisionZero, zero_div, Decimal.toPrecisionZero]
  have large := sound.sumLarge fun none => by
    rw [none.1, none.2, add_zero] at same
    exact (Decimal.magnitudePos zero f).ne same
  rw [Decimal.magnitudeOne] at large
  have low := lowestPlace few (large.trans_eq same)
  have fits : k < 10 ^ Decimal.precision := few.trans (by decide)
  have halfFits : 5 * k < 10 ^ Decimal.precision := by
    unfold Decimal.precision
    omega
  rw [Decimal.toPrecisionFixed fits (by omega), ← Decimal.magnitudeHalf,
    Decimal.toPrecisionFixed halfFits low]

theorem Sound.roundedMono {q' : Quote} (bid : q.bid.value ≤ q'.bid.value)
    (ask : q.ask.value ≤ q'.ask.value) : q.rounded ≤ q'.rounded := by
  have sum := Decimal.toPrecisionMono sound.sumNonneg (add_le_add bid ask)
  have nonneg := Decimal.toPrecisionNonneg (q.bid.value + q.ask.value)
  exact Decimal.toPrecisionMono (by linarith) (by linarith)

end

structure NearMiddle (q : Quote) (price : Decimal) : Prop where
  finite : price.isFinite = true
  zero : price.value = 0 ↔ q.bid.value = 0 ∧ q.ask.value = 0
  bounds : ¬ (q.bid.value = 0 ∧ q.ask.value = 0) →
    5 * 10 ^ (-29 : Int) ≤ price.value ∧ price.value ≤ 10 ^ 29
  error : |price.value - q.middle| ≤ q.middle / 10 ^ 27 * (1 + 1 / 10 ^ 27)
  exact : ∀ k : Nat, k < 10 ^ 27 →
    q.bid.value + q.ask.value = k * 10 ^ min q.bid.exponent q.ask.exponent →
    price.value = q.middle

theorem priceNearMiddle {venue symbol : String} {bid ask : Json} {quote : Quote}
    (ok : (make venue symbol bid ask).result = .ok quote) :
    ∃ price, quote.price = .ok price ∧ NearMiddle quote price := by
  have sound := makeSound ok
  obtain ⟨price, result, finite, value⟩ := sound.price
  refine ⟨price, result, finite, ?zero, ?bounds, ?error, ?exact⟩
  case zero =>
    constructor
    · intro zero
      by_contra some
      have low := (sound.roundedBounds some).1
      rw [← value, zero] at low
      norm_num at low
    · intro none
      rw [value]
      simp [rounded, none.1, none.2]
  case bounds =>
    rw [value]
    exact sound.roundedBounds
  case error =>
    rw [value]
    exact sound.roundedError
  case exact =>
    intro k few same
    rw [value]
    exact sound.roundedExact few same

def longSides : Quote :=
  ⟨.finite false 30100000000000000000000000005 (-27),
    .finite false 30300000000000000000000000001 (-27)⟩

theorem longSidesNearMiddle :
    (make "gemini" "XMRUSD" (.decimal longSides.bid) (.decimal longSides.ask)).result =
        .ok longSides ∧
      ∃ price, longSides.price = .ok price ∧ NearMiddle longSides price := by
  have made : (make "gemini" "XMRUSD" (.decimal longSides.bid) (.decimal longSides.ask)).result =
      .ok longSides := rfl
  exact ⟨made, priceNearMiddle made⟩

end Quote
end QuorumRate
