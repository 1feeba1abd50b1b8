import QuorumRate.Proofs.Attempt
import QuorumRate.Proofs.Quorum.Seating
import QuorumRate.Proofs.Quote.Price
import QuorumRate.Session

/-! One rate of a session to which every venue contributes a quote or a fault of its own. What the
session then does with the lots and the records is what the aggregation of these votes does. -/
namespace QuorumRate

namespace Venue

theorem fetchPrice {v : Venue} {client net pair quote}
    (ok : (v.fetch client net pair).result = .ok quote) :
    ∃ price, quote.price = .ok price ∧ price.isFinite = true := by
  unfold fetch at ok
  rw [Attempt.bindResult] at ok
  cases served : (client.getJson net (v.tickerUrl pair)).result with
  | error failure =>
    rw [served] at ok
    cases ok
  | ok data =>
    rw [served] at ok
    exact (quoteOfSound ok).priced

theorem memAll (v : Venue) : v ∈ all := by cases v <;> decide

theorem memFinishing (v : Venue) (net : Network) : v ∈ net.finishing :=
  net.allFinish.mem_iff.mpr v.memAll

def slate (votes : Venue → Outcome) : List (String × Outcome) := all.map fun v => (v.name, votes v)

theorem slateDistinct (votes : Venue → Outcome) : Quorum.Distinct (slate votes) := by
  unfold Quorum.Distinct slate
  rw [List.map_map]
  exact (by decide : (all.map name).Nodup)

theorem slateVote {votes : Venue → Outcome} {name outcome}
    (member : (name, outcome) ∈ slate votes) : ∃ v, outcome = votes v := by
  obtain ⟨v, _, same⟩ := List.mem_map.mp member
  exact ⟨v, (Prod.mk.inj same).2.symm⟩

theorem slateQuotes {votes : Venue → Outcome} {v : Venue} {quote} (vote : votes v = .ok quote) :
    0 < Quorum.quoteCount (slate votes) :=
  List.countP_pos_iff.mpr
    ⟨(v.name, votes v), List.mem_map_of_mem v.memAll, by rw [vote]; rfl⟩

end Venue

namespace Session
variable {client : Client} {net : Network} {pair : Pair} {votes : Venue → Outcome}

theorem settlePrice {picks outcomes r price seats}
    (result : (Quorum.aggregate Venue.heldOut.name picks outcomes).result = .ok r)
    (priced : r.price = some price) (seated : r.metadata.seats = some seats) :
    (settle pair picks outcomes).result = .ok (some price) := by
  unfold settle
  simp only [result, priced, seated]

theorem panelOutcomes {votes : Venue → Outcome}
    (each : ∀ v, Panel.outcome? (v.fetch client net pair) = some (votes v)) :
    Panel.outcomes (entrants client net pair Venue.all) = Venue.slate votes := by
  unfold Panel.outcomes entrants Venue.slate
  rw [List.filterMap_map, ← List.filterMap_eq_map]
  congr 1
  funext v
  simp [each v]

theorem joinVotes (finishing : List Venue)
    (each : ∀ v, Panel.outcome? (v.fetch client net pair) = some (votes v)) :
    (Panel.join pair (entrants client net pair Venue.all)
      (entrants client net pair finishing)).result = .ok (Venue.slate votes) := by
  rw [← panelOutcomes each]
  refine Panel.joinEnds fun entrant member => ?_
  obtain ⟨v, _, rfl⟩ := List.mem_map.mp member
  exact Panel.outcomeStays (each v)

theorem rateVotes (picks : List Int)
    (each : ∀ v, Panel.outcome? (v.fetch client net pair) = some (votes v)) :
    ∃ trace, rateOf client net picks pair =
      { settle pair picks (Venue.slate votes) with trace := trace } := by
  unfold rateOf
  simp only [joinVotes net.finishing each]
  exact ⟨_, rfl⟩

theorem slateFinite (each : ∀ v, Panel.outcome? (v.fetch client net pair) = some (votes v)) :
    Quorum.FinitePrices (Venue.slate votes) := by
  intro name own member
  obtain ⟨v, vote⟩ := Venue.slateVote member
  exact Venue.fetchPrice (Panel.outcomeQuote (vote ▸ each v))

theorem ratePriced (picks : List Int)
    (each : ∀ v, Panel.outcome? (v.fetch client net pair) = some (votes v))
    {voter : Venue} {quote : Quote} (voted : (voter.fetch client net pair).result = .ok quote) :
    ∃ r price, (Quorum.aggregate Venue.heldOut.name picks (Venue.slate votes)).result = .ok r ∧
      r.price = some price ∧ (rateOf client net picks pair).result = .ok (some price) := by
  have finite := slateFinite each
  have vote : votes voter = .ok quote :=
    Option.some.inj ((each voter).symm.trans (Panel.outcomeOfQuote voted))
  obtain ⟨b, seats, seated⟩ := Quorum.aggregateSeated Venue.heldOut.name picks
    (Venue.slateDistinct votes) finite
  obtain ⟨median, _, result⟩ := seated.settled finite.priced (Venue.slateQuotes vote)
  obtain ⟨trace, run⟩ := rateVotes picks each
  exact ⟨_, median.2, result, rfl, by rw [run]; exact settlePrice result rfl rfl⟩

theorem getRateRun {s : Session} {code : Text} (supported : Pair.ofCurrency? code = some pair) :
    s.getRate net code = (rateOf s.client net s.picks pair,
      { s with picks := (rateOf s.client net s.picks pair).picks }) := by
  unfold getRate rateIn
  rw [supported]

theorem getRateResult {s : Session} {code : Text} (supported : Pair.ofCurrency? code = some pair) :
    (s.getRate net code).1.result = (rateOf s.client net s.picks pair).result := by
  rw [getRateRun supported]

theorem getRateUnsupported {s : Session} {code : Text}
    (unsupported : Pair.ofCurrency? code = none) :
    s.getRate net code =
      (⟨.ok none, .ofRecord .info ("Currency " ++ code.quoted ++ " is not supported"), [], s.picks⟩,
        s) := by
  unfold getRate rateIn
  rw [unsupported]

end Session
end QuorumRate
