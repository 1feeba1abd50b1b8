import QuorumRate.Proofs.Decimal.Special
import QuorumRate.Quote.Basic

/-! When the price of a quote, or the question whether it is crossed, gives a signal. Its sides may
be any decimals here, also those that no venue's answer is read as. -/
namespace QuorumRate.Quote
open Decimal (Opposed toPrecision toSignificant)

def Invalid (q : Quote) : Prop :=
  (q.bid.isSignaling = true ∨ q.ask.isSignaling = true) ∨ Opposed q.bid q.ask

def Overflows (q : Quote) : Prop :=
  (q.bid.isFinite = true ∧ q.ask.isFinite = true) ∧
    10 ^ (1000000 : Int) ≤ toSignificant |q.bid.value + q.ask.value|

def Carries (q : Quote) (result : Except Decimal.Signal Decimal) : Prop :=
  ∃ price, result = .ok price ∧ (price.isNaN = true ↔ q.bid.isNaN = true ∨ q.ask.isNaN = true)

section
variable {q : Quote}

theorem Overflows.valid (overflows : q.Overflows) : ¬ q.Invalid := by
  obtain ⟨⟨bid, ask⟩, _⟩ := overflows
  rintro ((signaling | signaling) | opposed)
  · have nan := Decimal.signalingNaN signaling
    rw [Decimal.finiteNaN bid] at nan
    contradiction
  · have nan := Decimal.signalingNaN signaling
    rw [Decimal.finiteNaN ask] at nan
    contradiction
  · exact Decimal.finiteOpposed (.inl bid) opposed

theorem priceOverflows (overflows : q.Overflows) : q.price = .error .overflow := by
  obtain ⟨⟨bid, ask⟩, large⟩ := overflows
  have bound : Decimal.maxExponent + 1 = 1000000 := rfl
  rw [← bound, Decimal.overflowIff (abs_nonneg _)] at large
  unfold price
  rw [Decimal.addOverflows bid ask large]
  rfl

theorem finitePrice (bid : q.bid.isFinite = true) (ask : q.ask.isFinite = true)
    (fits : ¬ q.Overflows) : q.Carries q.price := by
  have small : ¬ 10 ^ (1000000 : Int) ≤ toSignificant |q.bid.value + q.ask.value| :=
    fun large => fits ⟨⟨bid, ask⟩, large⟩
  have bound : Decimal.maxExponent + 1 = 1000000 := rfl
  rw [← bound, Decimal.overflowIff (abs_nonneg _), not_le] at small
  obtain ⟨sum, added, finite, size⟩ := Decimal.addHeld bid ask small
  obtain ⟨middle, halved, finite⟩ := Decimal.halfHeld finite (size.trans_lt small)
  unfold price
  rw [added]
  refine ⟨middle, halved, ?_⟩
  simp [Decimal.finiteNaN finite, Decimal.finiteNaN bid, Decimal.finiteNaN ask]

theorem nanPrice (valid : ¬ q.Invalid) (nan : q.bid.isNaN = true ∨ q.ask.isNaN = true) :
    q.Carries q.price := by
  obtain ⟨n, p, added⟩ := Decimal.addQuiet (fun signaling => valid (.inl signaling)) nan
  unfold price
  rw [added]
  exact ⟨_, rfl, iff_of_true rfl nan⟩

end

theorem priceCases (q : Quote) :
    q.Invalid ∧ q.price = .error .invalidOperation ∨ q.Overflows ∧ q.price = .error .overflow ∨
      (¬ q.Invalid ∧ ¬ q.Overflows) ∧ q.Carries q.price := by
  by_cases signaling : q.bid.isSignaling = true ∨ q.ask.isSignaling = true
  · refine .inl ⟨.inl signaling, ?_⟩
    unfold price
    rw [Decimal.addSignaling signaling]
    rfl
  by_cases overflows : q.Overflows
  · exact .inr (.inl ⟨overflows, priceOverflows overflows⟩)
  by_cases finite : q.bid.isFinite = true ∧ q.ask.isFinite = true
  · have valid : ¬ q.Invalid := fun invalid =>
      invalid.elim signaling (Decimal.finiteOpposed (.inl finite.1))
    exact .inr (.inr ⟨⟨valid, overflows⟩, finitePrice finite.1 finite.2 overflows⟩)
  by_cases nan : q.bid.isNaN = true ∨ q.ask.isNaN = true
  · have valid : ¬ q.Invalid := by
      rintro (own | ⟨n, bid, ask⟩)
      · exact signaling own
      · rw [bid, ask] at nan
        simp [Decimal.isNaN] at nan
    exact .inr (.inr ⟨⟨valid, overflows⟩, nanPrice valid nan⟩)
  obtain ⟨bid, ask⟩ := not_or.mp nan
  rcases Decimal.addInfinite (Bool.eq_false_iff.mpr bid) (Bool.eq_false_iff.mpr ask) finite with
    ⟨opposed, added⟩ | ⟨apart, n, added⟩
  · refine .inl ⟨.inr opposed, ?_⟩
    unfold price
    rw [added]
    rfl
  · have valid : ¬ q.Invalid := fun invalid => invalid.elim signaling apart
    refine .inr (.inr ⟨⟨valid, overflows⟩, ?_⟩)
    unfold price
    rw [added]
    exact ⟨_, rfl, iff_of_false (by simp [Decimal.isNaN]) nan⟩

theorem invalidIff (q : Quote) : q.price = .error .invalidOperation ↔ q.Invalid := by
  rcases priceCases q with ⟨invalid, result⟩ | ⟨overflows, result⟩ | ⟨⟨valid, _⟩, _, result, _⟩
  · exact iff_of_true result invalid
  · exact iff_of_false (by simp [result]) overflows.valid
  · exact iff_of_false (by simp [result]) valid

theorem overflowsIff (q : Quote) : q.price = .error .overflow ↔ q.Overflows := by
  rcases priceCases q with ⟨invalid, result⟩ | ⟨overflows, result⟩ | ⟨⟨_, fits⟩, _, result, _⟩
  · exact iff_of_false (by simp [result]) fun overflows => overflows.valid invalid
  · exact iff_of_true result overflows
  · exact iff_of_false (by simp [result]) fits

theorem carries {q : Quote} (valid : ¬ q.Invalid) (fits : ¬ q.Overflows) : q.Carries q.price := by
  rcases priceCases q with ⟨invalid, _⟩ | ⟨overflows, _⟩ | ⟨_, carries⟩
  · exact absurd invalid valid
  · exact absurd overflows fits
  · exact carries

theorem crossedOrdered {q : Quote} (ordered : ¬ (q.bid.isNaN = true ∨ q.ask.isNaN = true)) :
    q.isCrossed = .ok (decide (q.ask.place < q.bid.place)) := by
  obtain ⟨bid, ask⟩ := not_or.mp ordered
  exact Decimal.lessPlace (Bool.eq_false_iff.mpr ask) (Bool.eq_false_iff.mpr bid)

theorem unorderedIff (q : Quote) :
    q.isCrossed = .error .invalidOperation ↔ q.bid.isNaN = true ∨ q.ask.isNaN = true := by
  by_cases nan : q.bid.isNaN = true ∨ q.ask.isNaN = true
  · exact iff_of_true (Decimal.lessUnordered nan.symm) nan
  · exact iff_of_false (by simp [crossedOrdered nan]) nan

structure Signals (q : Quote) : Prop where
  invalid : q.price = .error .invalidOperation ↔ q.Invalid
  overflow : q.price = .error .overflow ↔ q.Overflows
  price : ¬ q.Invalid → ¬ q.Overflows → q.Carries q.price
  unordered : q.isCrossed = .error .invalidOperation ↔
    q.bid.isNaN = true ∨ q.ask.isNaN = true
  crossed : ¬ (q.bid.isNaN = true ∨ q.ask.isNaN = true) →
    q.isCrossed = .ok (decide (q.ask.place < q.bid.place))

theorem quoteSignals (q : Quote) : Signals q where
  invalid := invalidIff q
  overflow := overflowsIff q
  price := carries
  unordered := unorderedIff q
  crossed := crossedOrdered

example : price ⟨.finite false (10 ^ 29 - 1) 999971, .finite true 0 0⟩ = .error .overflow ∧
    price ⟨.finite false 1 2000000, .finite true 1 2000000⟩ = .ok (.finite false 0 999999) := by
  decide +kernel

end QuorumRate.Quote
