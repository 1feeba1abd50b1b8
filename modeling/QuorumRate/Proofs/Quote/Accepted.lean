import QuorumRate.Proofs.Decimal.Value
import QuorumRate.Venue.Ticker

/-! Quotes made of accepted amounts: which amounts those are, and that either side of such a quote
is zero or of a size between `10^-28` and `10^29`. -/
namespace QuorumRate

section
variable {ε ε' α β : Type}

theorem okOfBind {x : Except ε α} {f : α → Except ε β} {b : β} (ok : x >>= f = .ok b) :
    ∃ a, x = .ok a ∧ f a = .ok b := by
  cases x with
  | error fault => cases ok
  | ok a => exact ⟨a, rfl, ok⟩

theorem okOfMapError {x : Except ε α} {f : ε → ε'} {a : α} (ok : x.mapError f = .ok a) :
    x = .ok a := by
  cases x with
  | error fault => cases ok
  | ok own =>
    cases ok
    rfl

theorem okOfToOption {x : Except ε α} {a : α} (some : x.toOption = some a) : x = .ok a := by
  cases x with
  | error fault => cases some
  | ok own =>
    cases some
    rfl

end

namespace Amount
open Decimal (magnitude)

structure Side (d : Decimal) : Prop where
  finite : d.isFinite = true
  nonneg : 0 ≤ d.value
  small : d.value < 10 ^ (maxLead + 1)
  large : d.value ≠ 0 → 10 ^ (-maxLead) ≤ d.value

theorem ofJsonOk {v d} :
    ofJson v = .ok d ↔ decimalOf v = .ok d ∧ ∃ n c e, d = .finite n c e ∧ inRange c e = true := by
  constructor
  · intro ok
    obtain ⟨written, read, bounded⟩ := okOfBind ok
    cases written with
    | infinity negative => cases bounded
    | nan negative signaling payload => cases bounded
    | finite n c e =>
      dsimp only at bounded
      split at bounded
      · rename_i inside
        cases bounded
        exact ⟨read, n, c, e, rfl, inside⟩
      · cases bounded
  · rintro ⟨read, n, c, e, rfl, inside⟩
    unfold ofJson
    rw [read]
    exact if_pos inside

theorem accepted {v d} (ok : ofJson v = .ok d) :
    ∃ n c e, d = .finite n c e ∧ inRange c e = true := (ofJsonOk.mp ok).2

theorem acceptedFinite {v d} (ok : ofJson v = .ok d) : d.isFinite = true := by
  obtain ⟨_, _, _, rfl, _⟩ := accepted ok
  rfl

theorem inRangeSize {c : Nat} {e : Int} (inside : inRange c e = true) (nonzero : c ≠ 0) :
    10 ^ (-maxLead) ≤ magnitude c e ∧ magnitude c e < 10 ^ (maxLead + 1) := by
  simp only [inRange, nonzero, decide_false, Bool.false_or, decide_eq_true_eq] at inside
  rw [Decimal.magnitudeGeIff nonzero, Decimal.magnitudeLtIff nonzero]
  omega

theorem side {v d} (ok : ofJson v = .ok d) (nonneg : 0 ≤ d.value) : Side d := by
  obtain ⟨n, c, e, rfl, inside⟩ := accepted ok
  by_cases zero : c = 0
  · subst zero
    exact ⟨rfl, nonneg, by rw [Decimal.valueZero]; positivity, fun some => by simp at some⟩
  obtain ⟨large, small⟩ := inRangeSize inside zero
  cases n with
  | false => exact ⟨rfl, nonneg, small, fun _ => large⟩
  | true => exact absurd (neg_neg_of_pos (Decimal.magnitudePos zero e)) (not_lt.mpr nonneg)

theorem sideInRange {n : Bool} {c : Nat} {e : Int} (side : Side (.finite n c e)) :
    inRange c e = true := by
  by_cases zero : c = 0
  · simp [inRange, zero]
  have positive := Decimal.magnitudePos zero e
  have value : (Decimal.finite n c e).value = magnitude c e := by
    cases n with
    | false => rfl
    | true => exact absurd (neg_neg_of_pos positive) (not_lt.mpr side.nonneg)
  have large := side.large (value ▸ positive.ne')
  have small := side.small
  rw [value, Decimal.magnitudeGeIff zero] at large
  rw [value, Decimal.magnitudeLtIff zero] at small
  simp only [inRange, zero, decide_false, Bool.false_or, decide_eq_true_eq]
  omega

theorem amountIff {v d} : ofJson v = .ok d ∧ 0 ≤ d.value ↔ decimalOf v = .ok d ∧ Side d := by
  constructor
  · rintro ⟨ok, nonneg⟩
    exact ⟨(ofJsonOk.mp ok).1, side ok nonneg⟩
  · rintro ⟨read, side⟩
    cases d with
    | finite n c e => exact ⟨ofJsonOk.mpr ⟨read, n, c, e, rfl, sideInRange side⟩, side.nonneg⟩
    | infinity negative => exact absurd side.finite Bool.false_ne_true
    | nan negative signaling payload => exact absurd side.finite Bool.false_ne_true

end Amount

namespace Quote

theorem ofAmountsOk {venue symbol : String} {bid ask : Json} {quote : Quote} :
    ofAmounts venue symbol bid ask = .ok quote ↔
      Amount.ofJson bid = .ok quote.bid ∧ Amount.ofJson ask = .ok quote.ask ∧
        0 ≤ quote.bid.value ∧ 0 ≤ quote.ask.value := by
  unfold ofAmounts
  constructor
  · intro ok
    obtain ⟨b, readBid, ok⟩ := okOfBind ok
    obtain ⟨a, readAsk, ok⟩ := okOfBind ok
    dsimp only at ok
    split at ok
    · cases ok
    · rename_i sound
      cases ok
      have bid := okOfMapError readBid
      have ask := okOfMapError readAsk
      simp only [Bool.or_eq_true, not_or] at sound
      rw [Decimal.belowZeroIff (Amount.acceptedFinite bid),
        Decimal.belowZeroIff (Amount.acceptedFinite ask)] at sound
      exact ⟨bid, ask, not_lt.mp sound.1, not_lt.mp sound.2⟩
  · rintro ⟨bid, ask, bidSound, askSound⟩
    have sound : ¬ (quote.bid.isBelowZero || quote.ask.isBelowZero) = true := by
      rw [Bool.or_eq_true, Decimal.belowZeroIff (Amount.acceptedFinite bid),
        Decimal.belowZeroIff (Amount.acceptedFinite ask)]
      exact not_or.mpr ⟨not_lt.mpr bidSound, not_lt.mpr askSound⟩
    rw [bid, ask]
    exact if_neg sound

theorem makeResult (venue symbol : String) (bid ask : Json) :
    (make venue symbol bid ask).result =
      (ofAmounts venue symbol bid ask).mapError fun fault => .venue (.content fault) := by
  unfold make
  cases ofAmounts venue symbol bid ask with
  | error fault => rfl
  | ok quote =>
    dsimp only
    split <;> rfl

structure Sound (q : Quote) : Prop where
  bid : Amount.Side q.bid
  ask : Amount.Side q.ask

theorem makeSound {venue symbol bid ask quote}
    (ok : (make venue symbol bid ask).result = .ok quote) : quote.Sound := by
  rw [makeResult] at ok
  obtain ⟨readBid, readAsk, bidNonneg, askNonneg⟩ := ofAmountsOk.mp (okOfMapError ok)
  exact ⟨Amount.side readBid bidNonneg, Amount.side readAsk askNonneg⟩

theorem makeOk {venue symbol bid ask} {quote : Quote}
    (readBid : Amount.decimalOf bid = .ok quote.bid)
    (readAsk : Amount.decimalOf ask = .ok quote.ask) :
    (make venue symbol bid ask).result = .ok quote ↔ quote.Sound := by
  constructor
  · exact makeSound
  · intro sound
    obtain ⟨bidOk, bidNonneg⟩ := Amount.amountIff.mpr ⟨readBid, sound.bid⟩
    obtain ⟨askOk, askNonneg⟩ := Amount.amountIff.mpr ⟨readAsk, sound.ask⟩
    rw [makeResult, ofAmountsOk.mpr ⟨bidOk, askOk, bidNonneg, askNonneg⟩]
    rfl

theorem makeRefused {venue symbol bid ask} {quote : Quote}
    (readBid : Amount.decimalOf bid = .ok quote.bid)
    (readAsk : Amount.decimalOf ask = .ok quote.ask) (unsound : ¬ quote.Sound) :
    ∃ fault, (make venue symbol bid ask).result = .error (.venue (.content fault)) := by
  rw [makeResult]
  cases made : ofAmounts venue symbol bid ask with
  | error fault => exact ⟨fault, rfl⟩
  | ok own =>
    obtain ⟨bidOk, askOk, bidNonneg, askNonneg⟩ := ofAmountsOk.mp made
    obtain ⟨ownBid, bidSide⟩ := Amount.amountIff.mp ⟨bidOk, bidNonneg⟩
    obtain ⟨ownAsk, askSide⟩ := Amount.amountIff.mp ⟨askOk, askNonneg⟩
    have bid : own.bid = quote.bid := Except.ok.inj (ownBid.symm.trans readBid)
    have ask : own.ask = quote.ask := Except.ok.inj (ownAsk.symm.trans readAsk)
    exact absurd ⟨bid ▸ bidSide, ask ▸ askSide⟩ unsound

def Made (q : Quote) : Prop :=
  ∃ venue symbol bid ask, (make venue symbol bid ask).result = .ok q

theorem Made.sound {q : Quote} (made : q.Made) : q.Sound := by
  obtain ⟨venue, symbol, bid, ask, ok⟩ := made
  exact makeSound ok

end Quote

namespace Venue

theorem quoteOfSound {v : Venue} {symbol data quote}
    (ok : (v.quoteOf symbol data).result = .ok quote) : quote.Sound := by
  unfold quoteOf at ok
  split at ok
  · cases ok
  · split at ok
    · cases ok
    · exact Quote.makeSound ok

end Venue
end QuorumRate
