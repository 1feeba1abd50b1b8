import QuorumRate.Proofs.Decimal.Overflow
import QuorumRate.Proofs.Decimal.Printed
import QuorumRate.Quote.Basic

/-! What arithmetic returns can be printed on one line and read back as it was. Rounding leaves no
more than twenty-nine digits, and an exponent that no reader turns away. -/
namespace QuorumRate

namespace Decimal

theorem boundedReadable {coefficient : Nat} {exponent : Int} (least : minExponent ≤ exponent)
    (most : exponent ≤ maxExponent) (few : digitCount coefficient ≤ 29) :
    isReadable coefficient exponent = true := by
  unfold minExponent at least
  unfold maxExponent at most
  exact readableModest (by omega) (by omega) (by omega)

theorem dropDigitsFew {c : Nat} {e last : Int} (dropped : e ≤ last)
    (lead : adjusted c e < last + precision) :
    digitCount (dropDigits c (last - e).toNat) ≤ 29 := by
  rw [dropDigitsNearest c dropped, digitCountLeIff (by decide)]
  have below : magnitude c e ≤ 10 ^ (last + precision) := by
    by_cases zero : c = 0
    · rw [zero, magnitudeZero]
      positivity
    · exact ((magnitudeLtIff zero).mpr lead).le
  exact (keptLe below).trans_lt (by decide)

def Readable (d : Decimal) : Prop := ∃ n c e, d = .finite n c e ∧ isReadable c e = true

theorem roundReadable {n : Bool} {c : Nat} {e : Int} {d : Decimal} (rounded : round n c e = .ok d) :
    d.Readable := by
  have count := digitCountPos c
  unfold round at rounded
  split at rounded
  · cases rounded
    refine ⟨_, _, _, rfl, boundedReadable (le_max_left ..) ?_ (by decide)⟩
    exact max_le (by decide) (min_le_left ..)
  dsimp only at rounded
  split at rounded
  · cases rounded
  rename_i lead
  have room : lastExponent (adjusted c e) + 27 ≤ maxExponent := by
    unfold lastExponent minExponent precision
    unfold maxExponent at lead ⊢
    omega
  have least : minExponent ≤ lastExponent (adjusted c e) := le_max_left ..
  have top : adjusted c e - 27 ≤ lastExponent (adjusted c e) := le_max_right ..
  split at rounded
  · rename_i fits
    cases rounded
    refine ⟨_, _, _, rfl, boundedReadable (least.trans fits) ?_ ?_⟩
    · unfold adjusted at lead
      omega
    · unfold adjusted at top fits
      omega
  rename_i dropped
  split at rounded
  · split at rounded
    · cases rounded
    · cases rounded
      exact ⟨_, _, _, rfl, boundedReadable (by omega) (by omega)
        ((digitCountLeIff (by decide)).mpr (by decide))⟩
  · cases rounded
    refine ⟨_, _, _, rfl, boundedReadable least (by omega) (dropDigitsFew (by omega) ?_)⟩
    unfold precision
    omega

theorem halfReadable {a d : Decimal} (halved : half a = .ok d) (finite : d.isFinite = true) :
    d.Readable := by
  cases a with
  | finite n c e =>
    unfold half at halved
    dsimp only at halved
    split at halved
    · exact roundReadable halved
    · exact roundReadable halved
  | infinity n =>
    cases halved
    cases finite
  | nan n signaling payload =>
    unfold half at halved
    dsimp only at halved
    split at halved
    · cases halved
    · cases halved
      cases finite

structure Legible (d : Decimal) : Prop where
  line : '\n' ∉ d.toString.toList
  read : ofText? (Text.ofString d.toString) = some d

theorem Readable.legible {d : Decimal} (readable : d.Readable) : d.Legible := by
  obtain ⟨n, c, e, rfl, readable⟩ := readable
  refine ⟨fun broken => ?_, readPrinted n readable⟩
  have clean := cleanPrinted n (Parts.ofFinitePrints c e)
  rw [← printedText] at clean
  have visible := (clean _ (List.mem_map_of_mem broken)).1.1
  exact absurd visible (by decide)

end Decimal

theorem Quote.priceLegible {q : Quote} {price : Decimal} (priced : q.price = .ok price)
    (finite : price.isFinite = true) : price.Legible := by
  unfold Quote.price at priced
  cases added : Decimal.add q.bid q.ask with
  | error signal =>
    rw [added] at priced
    cases priced
  | ok sum =>
    rw [added] at priced
    exact (Decimal.halfReadable priced finite).legible

end QuorumRate
