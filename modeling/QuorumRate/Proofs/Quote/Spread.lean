import QuorumRate.Proofs.Quote.Price

/-! The price between the sides of its quote. A side of twenty-seven digits fits, and so does its
double; no rounding passes a number that fits, so neither the sum nor its half leaves the sides. -/
namespace QuorumRate.Quote
open Decimal (magnitude toPrecision toPrecisionLeFitting toPrecisionGeFitting)

def Short (x : ℚ) : Prop := ∃ (k : Nat) (f : Int), k < 10 ^ 27 ∧ x = k * 10 ^ f

theorem doubled (k : Nat) (f : Int) : magnitude (2 * k) f = 2 * magnitude k f := by
  unfold magnitude
  push_cast
  ring

section
variable {d : Decimal} (side : Amount.Side d) (short : Short d.value) {sum : ℚ}
include side short

theorem shortFits (some : d.value ≠ 0) : ∃ (k : Nat) (f : Int), d.value = magnitude k f ∧
    k < 10 ^ Decimal.precision ∧ 2 * k < 10 ^ Decimal.precision ∧ Decimal.minExponent ≤ f := by
  obtain ⟨k, f, few, same⟩ := short
  have low := lowestPlace few ((side.large some).trans_eq same)
  refine ⟨k, f, same, few.trans (by decide), ?_, by omega⟩
  unfold Decimal.precision
  omega

theorem sideLeRounded (le : 2 * d.value ≤ sum) : d.value ≤ toPrecision (toPrecision sum / 2) := by
  by_cases zero : d.value = 0
  · rw [zero]
    exact Decimal.toPrecisionNonneg _
  obtain ⟨k, f, same, fits, doubleFits, low⟩ := shortFits side short zero
  rw [same, ← doubled] at le
  have rounded := toPrecisionGeFitting doubleFits low le
  rw [doubled] at rounded
  rw [same]
  exact toPrecisionGeFitting fits low (by linarith)

theorem roundedLeSide (nonneg : 0 ≤ sum) (le : sum ≤ 2 * d.value) :
    toPrecision (toPrecision sum / 2) ≤ d.value := by
  by_cases zero : d.value = 0
  · have none : sum = 0 := by linarith
    rw [none, Decimal.toPrecisionZero, zero_div, Decimal.toPrecisionZero]
    exact side.nonneg
  obtain ⟨k, f, same, fits, doubleFits, low⟩ := shortFits side short zero
  rw [same, ← doubled] at le
  have rounded := toPrecisionLeFitting doubleFits low nonneg le
  have sumNonneg := Decimal.toPrecisionNonneg sum
  rw [doubled] at rounded
  rw [same]
  exact toPrecisionLeFitting fits low (by linarith) (by linarith)

end

structure Inside (q : Quote) (price : Decimal) : Prop where
  finite : price.isFinite = true
  least : min q.bid.value q.ask.value ≤ price.value
  most : price.value ≤ max q.bid.value q.ask.value
  same : q.bid.value = q.ask.value → price.value = q.bid.value

theorem priceInside {venue symbol : String} {bid ask : Json} {quote : Quote}
    (ok : (make venue symbol bid ask).result = .ok quote) (bidShort : Short quote.bid.value)
    (askShort : Short quote.ask.value) :
    ∃ price, quote.price = .ok price ∧ Inside quote price := by
  have sound := makeSound ok
  obtain ⟨price, result, finite, value⟩ := sound.price
  unfold rounded at value
  have least : min quote.bid.value quote.ask.value ≤ price.value := by
    rw [value]
    rcases le_total quote.bid.value quote.ask.value with le | le
    · rw [min_eq_left le]
      exact sideLeRounded sound.bid bidShort (by linarith)
    · rw [min_eq_right le]
      exact sideLeRounded sound.ask askShort (by linarith)
  have most : price.value ≤ max quote.bid.value quote.ask.value := by
    rw [value]
    rcases le_total quote.bid.value quote.ask.value with le | le
    · rw [max_eq_right le]
      exact roundedLeSide sound.ask askShort sound.sumNonneg (by linarith)
    · rw [max_eq_left le]
      exact roundedLeSide sound.bid bidShort sound.sumNonneg (by linarith)
  refine ⟨price, result, finite, least, most, fun same => ?_⟩
  rw [← same, min_self] at least
  rw [← same, max_self] at most
  exact le_antisymm most least

example : price ⟨.finite false (10 ^ 28 - 1) 0, .finite false (10 ^ 28 - 1) 0⟩ =
    .ok (.finite false (10 ^ 27) 1) := by decide +kernel

def steepSides : Quote := ⟨.finite false 999999999999999999999999999 2, .finite false 10 (-29)⟩

theorem steepSidesInside :
    (make "kucoin" "ZEC-USDT" (.decimal steepSides.bid) (.decimal steepSides.ask)).result =
        .ok steepSides ∧ Short steepSides.bid.value ∧ Short steepSides.ask.value ∧
      ∃ price, steepSides.price = .ok price ∧ Inside steepSides price := by
  have made : (make "kucoin" "ZEC-USDT" (.decimal steepSides.bid)
      (.decimal steepSides.ask)).result = .ok steepSides := rfl
  have bidShort : Short steepSides.bid.value := ⟨999999999999999999999999999, 2, by decide, rfl⟩
  have askShort : Short steepSides.ask.value := ⟨10, -29, by decide, rfl⟩
  exact ⟨made, bidShort, askShort, priceInside made bidShort askShort⟩

end QuorumRate.Quote
