import QuorumRate.Proofs.Panel.Interleaving
import QuorumRate.Proofs.Session.TotalFailure

/-! What a rate reports of its venues at the level of warnings and above. A crossed quote and a
failure are reported once each, by the venue they belong to and as the venues finish, be it in their
own order or in another; an error is reported only when no venue has a quote, and then for all of
them in their own order. -/
namespace QuorumRate

namespace Log

def alarms (records : List Record) : List Record := atLeast .warning records

@[simp] theorem alarmsAppend (a b : List Record) : alarms (a ++ b) = alarms a ++ alarms b :=
  List.filter_append ..

theorem alarmsFlatMap {α : Type} (items : List α) (f : α → List Record) :
    alarms (items.flatMap f) = items.flatMap fun a => alarms (f a) := List.filter_flatMap

end Log

namespace Attempt
variable {α β : Type}

def alarms (x : Attempt α) : List Log.Record := Log.alarms x.trace.records

theorem bindAlarms (x : Attempt α) (f : α → Attempt β) :
    (x >>= f).alarms = x.alarms ++
      match x.result with
      | .ok a => (f a).alarms
      | .error _ => [] := by
  obtain ⟨result, trace⟩ := x
  cases result with
  | error failure => exact (List.append_nil _).symm
  | ok a => exact Log.alarmsAppend ..

theorem afterAlarms (trace : Trace) (x : Attempt α) :
    (after trace x).alarms = Log.alarms trace.records ++ x.alarms := Log.alarmsAppend ..

end Attempt

namespace Client

theorem requestAlarms (net : Network) (url : Url) : (request net url).alarms = [] := by
  unfold request
  cases net.reply url <;> rfl

theorem followAlarms (net : Network) (left : Nat) (url : Url) :
    (follow net left url).alarms = [] := by
  induction left generalizing url with
  | zero =>
    rw [follow, Attempt.bindAlarms, requestAlarms, List.nil_append]
    split
    · dsimp only
      split <;> rfl
    · rfl
  | succ left ih =>
    rw [follow, Attempt.bindAlarms, requestAlarms, List.nil_append]
    split
    · dsimp only
      split
      · rfl
      · exact ih _
    · rfl

theorem getAlarms (client : Client) (net : Network) (url : Url) :
    (client.get net url).alarms = [] := by
  unfold get
  split
  · rfl
  split
  · exact followAlarms ..
  · rw [Attempt.bindAlarms, requestAlarms, List.nil_append]
    split <;> rfl

theorem decodeAlarms (nesting : Nat) (r : Response) : (decode nesting r).alarms = [] := by
  unfold decode
  split
  · split <;> rfl
  · rfl

theorem getJsonAlarms (client : Client) (net : Network) (url : Url) :
    (client.getJson net url).alarms = [] := by
  unfold getJson
  rw [Attempt.bindAlarms, getAlarms, List.nil_append]
  split
  · exact decodeAlarms ..
  · rfl

end Client

theorem Quote.reversedIff {q : Quote} (sound : q.Sound) :
    q.isReversed = true ↔ q.ask.value < q.bid.value := by
  unfold isReversed
  rw [Decimal.compareFinites sound.ask.finite sound.bid.finite, beq_iff_eq, Option.some_inj,
    cmp_eq_lt_iff]

namespace Venue
variable {v : Venue} {client : Client} {net : Network} {pair : Pair}

def crossed (v : Venue) (symbol : String) (q : Quote) : List Log.Record :=
  if q.ask.value < q.bid.value then
    [⟨.warning, "[" ++ v.name ++ "] Crossed quote for " ++ symbol ++ ": bid=" ++ q.bid.toString ++
      " ask=" ++ q.ask.toString⟩]
  else []

def report (pair : Pair) (v : Venue) : Outcome → List Log.Record
  | .ok q => v.crossed (v.symbol pair) q
  | .error fault =>
    [⟨.warning, "[" ++ v.name ++ "] Failed to fetch " ++ pair.text ++ ": " ++ fault.message⟩]

theorem makeAlarms (v : Venue) (symbol : String) (bid ask : Json) :
    (Quote.make v.name symbol bid ask).alarms =
      ((Quote.make v.name symbol bid ask).result.toOption.map (v.crossed symbol)).getD [] := by
  rw [Quote.makeResult]
  unfold Quote.make
  cases made : Quote.ofAmounts v.name symbol bid ask with
  | error fault => rfl
  | ok q =>
    have sound : q.Sound := Quote.makeSound (by rw [Quote.makeResult, made]; rfl)
    change _ = v.crossed symbol q
    unfold crossed
    dsimp only
    by_cases reversed : q.isReversed = true
    · rw [if_pos reversed, if_pos ((Quote.reversedIff sound).mp reversed)]
      rfl
    · rw [if_neg reversed, if_neg fun lower => reversed ((Quote.reversedIff sound).mpr lower)]
      rfl

theorem quoteOfAlarms (v : Venue) (symbol : String) (data : Json) :
    (v.quoteOf symbol data).alarms =
      ((v.quoteOf symbol data).result.toOption.map (v.crossed symbol)).getD [] := by
  unfold quoteOf
  split
  · rfl
  split
  · rfl
  · exact makeAlarms ..

theorem fetchAlarms (v : Venue) (client : Client) (net : Network) (pair : Pair) :
    (v.fetch client net pair).alarms =
      ((v.fetch client net pair).result.toOption.map (v.crossed (v.symbol pair))).getD [] := by
  unfold fetch
  rw [Attempt.bindAlarms, Client.getJsonAlarms, List.nil_append, Attempt.bindResult]
  cases (client.getJson net (v.tickerUrl pair)).result with
  | error failure => rfl
  | ok data => exact quoteOfAlarms ..

theorem tracedAlarms {vote : Outcome}
    (own : (v.fetch client net pair).result = vote.mapError .venue) :
    Log.alarms (Panel.traceOf pair (v.name, v.fetch client net pair)).records =
      v.report pair vote := by
  have fetched := fetchAlarms v client net pair
  unfold Attempt.alarms at fetched
  rw [Panel.tracedRecords, Log.alarmsAppend, fetched]
  unfold Panel.warning?
  dsimp only
  rw [own]
  cases vote with
  | ok q => exact List.append_nil _
  | error fault => rfl

end Venue

theorem Quorum.aggregateAlarms {heldOut : String} {outcomes : List (String × Outcome)} {b : Ballot}
    (picks : List Int) (counted : ballot heldOut outcomes = .ok b) (positive : 0 < b.size) :
    Log.alarms (aggregate heldOut picks outcomes).records = [] := by
  have odd := (evictKeptOdd heldOut picks positive).1
  have filled : (b.evict heldOut picks).kept.isEmpty = false := by
    rw [List.isEmpty_eq_false_iff, ← List.length_pos_iff]
    omega
  unfold aggregate
  rw [counted]
  dsimp only
  rw [filled, if_neg Bool.false_ne_true, List.append_nil]
  cases (b.evict heldOut picks).evicted <;> rfl

namespace Session
variable {client : Client} {net : Network} {pair : Pair} {votes : Venue → Outcome}

theorem joinAlarms
    (own : ∀ v : Venue, (v.fetch client net pair).result = (votes v).mapError .venue) :
    (Panel.join pair (entrants client net pair Venue.all)
        (entrants client net pair net.finishing)).alarms =
      net.finishing.flatMap fun v => v.report pair (votes v) := by
  have quiet (last : Attempt (List (String × Outcome))) (silent : last.alarms = []) :
      (Attempt.after (.concat ((entrants client net pair net.finishing).map
          (Panel.traceOf pair))) last).alarms =
        net.finishing.flatMap fun v => v.report pair (votes v) := by
    rw [Attempt.afterAlarms, silent, List.append_nil]
    simp [Trace.concat, entrants, Log.alarmsFlatMap, List.flatMap_map, Venue.tracedAlarms (own _)]
  unfold Panel.join
  split
  · exact quiet _ rfl
  · exact quiet _ rfl

theorem settleAlarms (picks : List Int) {outcomes : List (String × Outcome)}
    (distinct : Quorum.Distinct outcomes) (finite : Quorum.FinitePrices outcomes)
    (quoted : 0 < Quorum.quoteCount outcomes) :
    Log.alarms (settle pair picks outcomes).trace.records = [] := by
  obtain ⟨b, seats, seated⟩ := Quorum.aggregateSeated Venue.heldOut.name picks distinct finite
  have counted := seated.counted distinct finite.priced
  have positive : 0 < b.size := by rwa [seated.counts.size finite.priced]
  obtain ⟨median, _, result⟩ := seated.settled finite.priced quoted
  unfold settle
  simp only [result, Log.alarmsAppend, Quorum.aggregateAlarms picks counted positive]
  rfl

theorem settleOutcry (pair : Pair) (picks : List Int) (first : String × Venue.Fault)
    (others : List (String × Venue.Fault)) :
    (settle pair picks
        ((first :: others).map fun fault => (fault.1, .error fault.2))).trace.records =
      Quorum.faultRecords (first :: others) ++
        [⟨.error, "All exchange requests failed for " ++ pair.text⟩] := by
  unfold settle
  rw [Quorum.aggregateFaults]
  rfl

theorem ownOutcome {attempt : Attempt Quote} {vote : Outcome}
    (own : attempt.result = vote.mapError .venue) : Panel.outcome? attempt = some vote := by
  unfold Panel.outcome?
  rw [own]
  cases vote <;> rfl

theorem rateAlarms (picks : List Int)
    (own : ∀ v : Venue, (v.fetch client net pair).result = (votes v).mapError .venue) :
    Log.alarms (rateOf client net picks pair).trace.records =
      (net.finishing.flatMap fun v => v.report pair (votes v)) ++
        Log.alarms (settle pair picks (Venue.slate votes)).trace.records := by
  rw [← joinAlarms own]
  unfold rateOf
  simp only [joinVotes net.finishing fun v => ownOutcome (own v)]
  exact Log.alarmsAppend ..

theorem quotedAlarms (picks : List Int)
    (own : ∀ v : Venue, (v.fetch client net pair).result = (votes v).mapError .venue)
    {voter : Venue} {quote : Quote} (vote : votes voter = .ok quote) :
    Log.alarms (rateOf client net picks pair).trace.records =
      net.finishing.flatMap fun v => v.report pair (votes v) := by
  have finite := slateFinite fun v => ownOutcome (own v)
  rw [rateAlarms picks own, settleAlarms picks (Venue.slateDistinct votes) finite
    (Venue.slateQuotes vote), List.append_nil]

def outcry (pair : Pair) (faults : Venue → Venue.Fault) : List Log.Record :=
  Venue.all.map (fun v => ⟨.error, "[" ++ v.name ++ "] " ++ (faults v).message⟩) ++
    [⟨.error, "All exchange requests failed for " ++ pair.text⟩]

theorem failedAlarms {faults : Venue → Venue.Fault} (picks : List Int)
    (own : ∀ v : Venue, (v.fetch client net pair).result = .error (.venue (faults v))) :
    Log.alarms (rateOf client net picks pair).trace.records =
      (net.finishing.flatMap fun v => v.report pair (.error (faults v))) ++ outcry pair faults := by
  have fails (v : Venue) : (v.fetch client net pair).result =
      Except.mapError .venue (.error (faults v) : Outcome) := own v
  have cried := settleOutcry pair picks (Venue.binance.name, faults .binance)
    ((Venue.all.drop 1).map fun v => (v.name, faults v))
  exact (rateAlarms picks fails).trans (congrArg (_ ++ Log.alarms ·) cried)

theorem reportCalm (pair : Pair) (v : Venue) (vote : Outcome) :
    ∀ record ∈ v.report pair vote, record.level = .warning := by
  cases vote with
  | error fault => exact List.forall_mem_singleton.mpr rfl
  | ok q =>
    change ∀ record ∈ v.crossed (v.symbol pair) q, _
    unfold Venue.crossed
    split
    · exact List.forall_mem_singleton.mpr rfl
    · exact nofun

end Session

structure Reported (s : Session) (net : Network) (code : Text) (pair : Pair)
    (votes : Venue → Outcome) : Prop where
  quoted : (∃ v quote, votes v = .ok quote) →
    Log.alarms (s.getRate net code).1.trace.records =
      net.finishing.flatMap fun v => v.report pair (votes v)
  failed : ∀ faults : Venue → Venue.Fault, (∀ v, votes v = .error (faults v)) →
    Log.alarms (s.getRate net code).1.trace.records =
      (net.finishing.flatMap fun v => v.report pair (votes v)) ++ Session.outcry pair faults
  errors : (∃ record ∈ Log.alarms (s.getRate net code).1.trace.records, record.level = .error) ↔
    ∀ v, ∃ fault, votes v = .error fault

theorem getRateReported {s : Session} {net : Network} {code : Text} {pair : Pair}
    {votes : Venue → Outcome} (supported : Pair.ofCurrency? code = some pair)
    (own : ∀ v : Venue, (v.fetch s.client net pair).result = (votes v).mapError .venue) :
    Reported s net code pair votes := by
  have run : s.getRate net code = _ := Session.getRateRun supported
  have quoted {v quote} (vote : votes v = .ok quote) :
      Log.alarms (s.getRate net code).1.trace.records =
        net.finishing.flatMap fun v => v.report pair (votes v) := by
    rw [run]
    exact Session.quotedAlarms s.picks own vote
  have failed {faults : Venue → Venue.Fault} (each : ∀ v, votes v = .error (faults v)) :
      Log.alarms (s.getRate net code).1.trace.records =
        (net.finishing.flatMap fun v => v.report pair (votes v)) ++ Session.outcry pair faults := by
    have all : votes = fun v => .error (faults v) := funext each
    subst all
    rw [run]
    exact Session.failedAlarms s.picks own
  constructor
  case quoted =>
    rintro ⟨v, quote, vote⟩
    exact quoted vote
  case failed => exact fun faults each => failed each
  case errors =>
    constructor
    · rintro ⟨record, member, error⟩ v
      cases vote : votes v with
      | error fault => exact ⟨fault, rfl⟩
      | ok quote =>
        rw [quoted vote, List.mem_flatMap] at member
        obtain ⟨w, _, reported⟩ := member
        rw [Session.reportCalm pair w _ record reported] at error
        cases error
    · intro all
      choose faults each using all
      rw [failed each]
      exact ⟨_, List.mem_append_right _ (List.mem_append_right _ (List.mem_singleton_self _)), rfl⟩

def crossedNet : Network :=
  (Network.silent.set .gateio (.response 200
    "[\x7b\"highest_bid\":\"3\",\"lowest_ask\":\"1\"\x7d]".toUTF8.toList none)).set .kucoin
      (.response 200 "\x7b\"data\":\x7b\"buy\":2,\"sell\":-1\x7d\x7d".toUTF8.toList none)

def crossedSession : Session := ⟨false, ⟨false, false⟩, []⟩

theorem crossedReported :
    Pair.ofCurrency? (Text.ofString "usd") = some .usd ∧ ∃ votes : Venue → Outcome,
      (∀ v : Venue, (v.fetch crossedSession.client crossedNet .usd).result =
        (votes v).mapError .venue) ∧
      Reported crossedSession crossedNet (Text.ofString "usd") .usd votes ∧
      Venue.gateio.report .usd (votes .gateio) =
        [⟨.warning, "[gateio] Crossed quote for ZEC_USDT: bid=3 ask=1"⟩] ∧
      Venue.kucoin.report .usd (votes .kucoin) =
        [⟨.warning, "[kucoin] Failed to fetch zec/usd: " ++
          "[kucoin] Negative quote for ZEC-USDT: bid=2 ask=-1"⟩] := by
  have supported : Pair.ofCurrency? (Text.ofString "usd") = some .usd := by decide +kernel
  have answered (v : Venue) :
      (Panel.outcome? (v.fetch crossedSession.client crossedNet .usd)).isSome = true := by
    cases v <;> decide +kernel
  choose votes each using fun v => Option.isSome_iff_exists.mp (answered v)
  have own (v : Venue) := Panel.outcomeContributes (each v)
  refine ⟨supported, votes, own, getRateReported supported own, ?_, ?_⟩
  · rw [← Venue.tracedAlarms (own _)]
    decide +kernel
  · rw [← Venue.tracedAlarms (own _)]
    decide +kernel

end QuorumRate
