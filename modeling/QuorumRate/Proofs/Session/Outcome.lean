import QuorumRate.Proofs.Decimal.Readable
import QuorumRate.Proofs.Session.TotalFailure

/-! What a session comes to that asks for one rate, when each venue gives a quote or a fault of its
own. There are three ends. Where there is a rate it is the price of some quote, and so can be
written out in full. -/
namespace QuorumRate

namespace Quorum

theorem aggregateQuoted {heldOut : String} {picks : List Int} {outcomes r price}
    (distinct : Distinct outcomes) (finite : FinitePrices outcomes)
    (result : (aggregate heldOut picks outcomes).result = .ok r) (priced : r.price = some price) :
    ∃ name quote, (name, .ok quote) ∈ outcomes ∧ quote.price = .ok price := by
  obtain ⟨b, seats, seated⟩ := aggregateSeated heldOut picks distinct finite
  rw [seated.result] at result
  cases result
  unfold report at priced
  split at priced
  · cases priced
  · rename_i source median middle
    cases priced
    obtain ⟨quote, member, own⟩ := memEntries.mp (seated.subset (List.mem_of_getElem? middle))
    exact ⟨source, quote, member, own⟩

end Quorum

namespace Session
variable {client : Client} {net : Network} {pair : Pair} {votes : Venue → Outcome}

theorem rateLegible (picks : List Int)
    (each : ∀ v, Panel.outcome? (v.fetch client net pair) = some (votes v))
    {voter : Venue} {quote : Quote} (voted : (voter.fetch client net pair).result = .ok quote) :
    ∃ rate, (rateOf client net picks pair).result = .ok (some rate) ∧ rate.Legible := by
  obtain ⟨r, rate, result, priced, rated⟩ := ratePriced picks each voted
  have finite := slateFinite each
  obtain ⟨name, own, member, price⟩ :=
    Quorum.aggregateQuoted (Venue.slateDistinct votes) finite result priced
  obtain ⟨_, found, whole⟩ := finite name own member
  cases found.symm.trans price
  exact ⟨rate, rated, Quote.priceLegible price whole⟩

theorem votesApart
    (quoted : ∃ (v : Venue) (quote : Quote), (v.fetch client net pair).result = .ok quote) :
    ¬ ∀ v : Venue, ∃ fault, (v.fetch client net pair).result = .error (.venue fault) := by
  intro failed
  obtain ⟨voter, quote, voted⟩ := quoted
  obtain ⟨fault, faulty⟩ := failed voter
  cases voted.symm.trans faulty

inductive Rated (client : Client) (net : Network) (code : Text) : RateRun → Prop
  | unsupported {run} (foreign : Pair.ofCurrency? code = none) (result : run.result = .ok none)
      (silent : run.trace.requests = []) : Rated client net code run
  | quoted {pair rate run} (supported : Pair.ofCurrency? code = some pair)
      (some : ∃ (v : Venue) (quote : Quote), (v.fetch client net pair).result = .ok quote)
      (result : run.result = .ok (.some rate)) (legible : rate.Legible) : Rated client net code run
  | failed {pair failure origin run} (supported : Pair.ofCurrency? code = some pair)
      (all : ∀ v : Venue, ∃ fault, (v.fetch client net pair).result = .error (.venue fault))
      (result : run.result = .error (.total failure origin)) : Rated client net code run

def Answered (client : Client) (net : Network) : Prop :=
  ∀ pair (v : Venue), (∃ quote, (v.fetch client net pair).result = .ok quote) ∨
    ∃ fault, (v.fetch client net pair).result = .error (.venue fault)

theorem getRateRated (s : Session) {net : Network} (answered : Answered s.client net)
    (code : Text) : Rated s.client net code (s.getRate net code).1 := by
  cases supported : Pair.ofCurrency? code with
  | none =>
    rw [getRateUnsupported supported]
    exact .unsupported supported rfl rfl
  | some pair =>
    rw [getRateRun supported]
    by_cases quoted : ∃ (v : Venue) (quote : Quote), (v.fetch s.client net pair).result = .ok quote
    · obtain ⟨voter, quote, voted⟩ := quoted
      choose votes each using fun v : Venue => Panel.outcomeAnswered (answered pair v)
      obtain ⟨rate, rated, legible⟩ := rateLegible s.picks each voted
      exact .quoted supported ⟨voter, quote, voted⟩ rated legible
    · have faulty (v : Venue) := (answered pair v).resolve_left fun own => quoted ⟨v, own⟩
      choose faults each using faulty
      obtain ⟨trace, failed⟩ := rateFaults s.picks each
      exact .failed supported (fun v => ⟨_, each v⟩) (congrArg RateRun.result failed)

end Session

end QuorumRate
