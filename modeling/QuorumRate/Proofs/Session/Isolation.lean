import QuorumRate.Proofs.Session.Rate
import QuorumRate.Proofs.Transport.Chain

/-! What a venue can do to the others in a session. A bad answer costs the venue its own vote and
nothing else, unless the chain of its requests goes astray, and then there is no rate at all. -/
namespace QuorumRate

namespace Venue

theorem quoteOfStays {v : Venue} {symbol data failure} :
    ¬ Escapes (v.quoteOf symbol data).result failure := by
  unfold quoteOf
  split
  · exact venueStays
  · split
    · exact venueStays
    · unfold Quote.make
      split
      · exact venueStays
      · split <;> exact okStays

theorem fetchStrays {v : Venue} {client : Client} (isOpen : client.isClosed = false)
    {net pair failure} :
    Escapes (v.fetch client net pair).result failure ↔
      Strays net client.hops (v.tickerUrl pair) failure := by
  unfold fetch
  rw [Attempt.bindResult, escapesBind, Client.getJsonStrays isOpen]
  refine or_iff_left ?_
  rintro ⟨data, _, escapes⟩
  exact quoteOfStays escapes

end Venue

def Reply.IsPlain : Reply → Prop
  | .answer _ _ location => location = none
  | .timeout _ | .broken _ => True
  | .refused _ _ | .unwritable _ => False

theorem plainStrays {net : Network} {url : Url} (plain : (net.reply url).IsPlain) {left failure} :
    Strays net left url failure ↔
      failure = .arithmetic .invalidOperation ∧ ∃ status body,
        net.reply url = .answer status body none ∧ Unholdable net.nesting status body := by
  have noLocation {status body location} (reply : net.reply url = .answer status body location) :
      location = none := by
    rw [reply] at plain
    exact plain
  constructor
  · intro strays
    cases strays with
    | misled astray =>
      cases astray with
      | refused reply =>
        rw [reply] at plain
        exact plain.elim
      | unwritable reply =>
        rw [reply] at plain
        exact plain.elim
      | derailed reply escapes =>
        cases noLocation reply
        exact absurd escapes okStays
    | unholdable reply _ body =>
      cases noLocation reply
      exact ⟨rfl, _, _, reply, body⟩
    | hop reply leads _ =>
      cases noLocation reply
      cases leads
  · rintro ⟨rfl, status, body, reply, unholdable⟩
    exact .unholdable reply rfl unholdable

namespace Session
variable {client : Client} {net : Network} {pair : Pair}

theorem rateAstray (picks : List Int) (isOpen : client.isClosed = false) {v : Venue} {failure}
    (strays : Strays net client.hops (v.tickerUrl pair) failure) :
    ∃ w other, Strays net client.hops (Venue.tickerUrl w pair) other ∧
      (rateOf client net picks pair).result = .error (.other other) := by
  have among : (v.name, v.fetch client net pair) ∈ entrants client net pair net.finishing :=
    List.mem_map_of_mem (v.memFinishing net)
  have escape := Panel.escapeIff.mpr ((Venue.fetchStrays isOpen).mpr strays)
  cases found : (entrants client net pair net.finishing).findSome? fun entrant =>
      Panel.escape? entrant.2 with
  | none =>
    have none := List.findSome?_eq_none_iff.mp found _ among
    rw [escape] at none
    contradiction
  | some other =>
    obtain ⟨entrant, member, own⟩ := List.exists_of_findSome?_eq_some found
    obtain ⟨w, _, rfl⟩ := List.mem_map.mp member
    refine ⟨w, other, (Venue.fetchStrays isOpen).mp (Panel.escapeIff.mp own), ?_⟩
    unfold rateOf
    simp only [Panel.joinFails found]

theorem ratePrice (picks : List Int) (isOpen : client.isClosed = false)
    (stays : ∀ v failure, ¬ Strays net client.hops (Venue.tickerUrl v pair) failure)
    {voter : Venue} {quote : Quote} (voted : (voter.fetch client net pair).result = .ok quote) :
    ∃ votes : Venue → Outcome,
      (∀ v, Panel.outcome? (v.fetch client net pair) = some (votes v)) ∧
      ∃ r price, (Quorum.aggregate Venue.heldOut.name picks (Venue.slate votes)).result = .ok r ∧
        r.price = some price ∧ (rateOf client net picks pair).result = .ok (some price) := by
  have attempts (v : Venue) : ∀ failure, ¬ Escapes (v.fetch client net pair).result failure :=
    fun failure escapes => stays v failure ((Venue.fetchStrays isOpen).mp escapes)
  choose votes each using fun v => Panel.outcomeExists (attempts v)
  exact ⟨votes, each, ratePriced picks each voted⟩

end Session

structure Isolated (s : Session) (net : Network) (code : Text) (pair : Pair) : Prop where
  returns : (∃ price, (s.getRate net code).1.result = .ok (some price)) ↔
    ∀ v failure, ¬ Strays net s.client.hops (Venue.tickerUrl v pair) failure
  raises : ∀ v failure, Strays net s.client.hops (Venue.tickerUrl v pair) failure →
    ∃ w other, Strays net s.client.hops (Venue.tickerUrl w pair) other ∧
      (s.getRate net code).1.result = .error (.other other)
  plain : (∀ v, (net.reply (Venue.tickerUrl v pair)).IsPlain) →
    ((∃ price, (s.getRate net code).1.result = .ok (some price)) ↔
      ∀ v status body, net.reply (Venue.tickerUrl v pair) = .answer status body none →
        ¬ Unholdable net.nesting status body)
  votes : ∀ price, (s.getRate net code).1.result = .ok (some price) →
    ∃ votes : Venue → Outcome,
      (∀ v, Panel.outcome? (v.fetch s.client net pair) = some (votes v)) ∧
      ∃ r, (Quorum.aggregate Venue.heldOut.name s.picks (Venue.slate votes)).result = .ok r ∧
        r.price = some price

theorem getRateIsolated {s : Session} {net : Network} {code : Text} {pair : Pair} {voter : Venue}
    {quote : Quote} (isOpen : s.client.isClosed = false)
    (supported : Pair.ofCurrency? code = some pair)
    (voted : (voter.fetch s.client net pair).result = .ok quote) : Isolated s net code pair := by
  have run : (s.getRate net code).1.result = (Session.rateOf s.client net s.picks pair).result :=
    Session.getRateResult supported
  have astray {v failure} (strays : Strays net s.client.hops (Venue.tickerUrl v pair) failure) :
      ∃ w other, Strays net s.client.hops (Venue.tickerUrl w pair) other ∧
        (s.getRate net code).1.result = .error (.other other) := by
    rw [run]
    exact Session.rateAstray s.picks isOpen strays
  have stays {price} (returned : (s.getRate net code).1.result = .ok (some price)) (v failure) :
      ¬ Strays net s.client.hops (Venue.tickerUrl v pair) failure := by
    intro strays
    obtain ⟨w, other, _, raised⟩ := astray strays
    rw [returned] at raised
    cases raised
  have returns : (∃ price, (s.getRate net code).1.result = .ok (some price)) ↔
      ∀ v failure, ¬ Strays net s.client.hops (Venue.tickerUrl v pair) failure := by
    constructor
    · rintro ⟨price, returned⟩
      exact stays returned
    · intro none
      obtain ⟨_, _, _, price, _, _, rate⟩ := Session.ratePrice s.picks isOpen none voted
      exact ⟨price, run.trans rate⟩
  refine ⟨returns, fun v failure strays => astray strays, ?_, ?_⟩
  · intro plain
    rw [returns]
    constructor
    · intro none v status body reply unholdable
      exact none v _ ((plainStrays (plain v)).mpr ⟨rfl, status, body, reply, unholdable⟩)
    · intro holdable v failure strays
      obtain ⟨_, status, body, reply, unholdable⟩ := (plainStrays (plain v)).mp strays
      exact holdable v status body reply unholdable
  · intro price returned
    obtain ⟨votes, each, r, own, result, priced, rate⟩ :=
      Session.ratePrice s.picks isOpen (stays returned) voted
    rw [run, rate] at returned
    cases returned
    exact ⟨votes, each, r, result, priced⟩

def strayNumber : Network :=
  (Network.silent.set .binance (.response 200 "1e1000000000000000000".toUTF8.toList none)).set
    .coinbase (.response 200 "\x7b\"bid\":1,\"ask\":3\x7d".toUTF8.toList none)

def freshSession : Session := ⟨true, ⟨true, false⟩, []⟩

theorem strayNumberQuote :
    (Venue.coinbase.fetch freshSession.client strayNumber .usd).result =
      .ok ⟨.finite false 1 0, .finite false 3 0⟩ :=
  okOfToOption (by decide +kernel)

theorem strayNumberIsolated :
    freshSession.client.isClosed = false ∧ Pair.ofCurrency? (Text.ofString "usd") = some .usd ∧
      (Venue.coinbase.fetch freshSession.client strayNumber .usd).result =
        .ok ⟨.finite false 1 0, .finite false 3 0⟩ ∧
      Isolated freshSession strayNumber (Text.ofString "usd") .usd :=
  ⟨rfl, by decide +kernel, strayNumberQuote,
    getRateIsolated rfl (by decide +kernel) strayNumberQuote⟩

theorem strayNumberStopsRate :
    (∀ v, (strayNumber.reply (Venue.tickerUrl v .usd)).IsPlain) ∧
      freshSession.client.isClosed = false ∧ Pair.ofCurrency? (Text.ofString "usd") = some .usd ∧
      (Venue.coinbase.fetch freshSession.client strayNumber .usd).result =
        .ok ⟨.finite false 1 0, .finite false 3 0⟩ ∧
      (freshSession.getRate strayNumber (Text.ofString "usd")).1.result =
        .error (.other (.arithmetic .invalidOperation)) := by
  have plain (v : Venue) : (strayNumber.reply (v.tickerUrl .usd)).IsPlain := by cases v <;> rfl
  have supported : Pair.ofCurrency? (Text.ofString "usd") = some .usd := by decide +kernel
  have unholdable : Unholdable strayNumber.nesting 200 "1e1000000000000000000".toUTF8.toList := by
    decide +kernel
  have strays : Strays strayNumber freshSession.client.hops (Venue.tickerUrl .binance .usd)
      (.arithmetic .invalidOperation) :=
    (plainStrays (plain .binance)).mpr ⟨rfl, _, _, rfl, unholdable⟩
  obtain ⟨w, other, also, raised⟩ := Session.rateAstray freshSession.picks rfl strays
  obtain ⟨rfl, _⟩ := (plainStrays (plain w)).mp also
  exact ⟨plain, rfl, supported, strayNumberQuote, (Session.getRateResult supported).trans raised⟩

end QuorumRate
