import QuorumRate.Proofs.Session.Rate

/-! Total failure. It takes a fault of every venue; then each fault is kept under the name of its
own venue, in their order, the first one is the cause, and no lot is drawn. A single quote keeps all
the faults of the others from the caller. -/
namespace QuorumRate

namespace Quorum

theorem ballotFaults (heldOut : String) (faults : List (String × Venue.Fault)) :
    ballot heldOut (faults.map fun fault => (fault.1, .error fault.2)) =
      .ok ⟨[], none, faults⟩ := by
  induction faults with
  | nil => rfl
  | cons first rest ih =>
    rw [List.map_cons, ballot, ih]
    rfl

theorem aggregateFaults (heldOut : String) (picks : List Int)
    (faults : List (String × Venue.Fault)) :
    aggregate heldOut picks (faults.map fun fault => (fault.1, .error fault.2)) =
      ⟨.ok ⟨none, ⟨some allFailed, faults.map (·.1), none⟩, faults⟩, [], picks,
        faultRecords faults⟩ := by
  unfold aggregate
  rw [ballotFaults]
  rfl

end Quorum

namespace Session
variable {client : Client} {net : Network} {pair : Pair} {faults : Venue → Venue.Fault}

theorem settleFaults (pair : Pair) (picks : List Int) (first : String × Venue.Fault)
    (others : List (String × Venue.Fault)) :
    ∃ trace, settle pair picks ((first :: others).map fun fault => (fault.1, .error fault.2)) =
      ⟨.error (.total ⟨(first.1, .venue first.2), others.map fun fault => (fault.1, .venue fault.2)⟩
        (.venue first.2)), trace, [], picks⟩ := by
  unfold settle
  rw [Quorum.aggregateFaults]
  exact ⟨_, rfl⟩

def together (faults : Venue → Venue.Fault) : TotalFailure :=
  ⟨(Venue.binance.name, .venue (faults .binance)),
    (Venue.all.drop 1).map fun v => (v.name, .venue (faults v))⟩

theorem rateFaults (picks : List Int)
    (each : ∀ v : Venue, (v.fetch client net pair).result = .error (.venue (faults v))) :
    ∃ trace, rateOf client net picks pair =
      ⟨.error (.total (together faults) (.venue (faults .binance))), trace, [], picks⟩ := by
  have votes (v : Venue) :
      Panel.outcome? (v.fetch client net pair) = some (.error (faults v)) := by
    unfold Panel.outcome?
    rw [each v]
  obtain ⟨trace, run⟩ := rateVotes picks votes
  obtain ⟨_, settled⟩ := settleFaults pair picks (Venue.binance.name, faults .binance)
    ((Venue.all.drop 1).map fun v => (v.name, faults v))
  refine ⟨trace, run.trans ?_⟩
  have slate : (Venue.slate fun v => .error (faults v)) =
      ((Venue.binance.name, faults .binance) ::
        (Venue.all.drop 1).map fun v => (v.name, faults v)).map
          fun fault => (fault.1, .error fault.2) := rfl
  rw [slate, settled]
  rfl

end Session

structure FailsTogether (s : Session) (net : Network) (code : Text) (pair : Pair) : Prop where
  fails : (∃ failure origin, (s.getRate net code).1.result = .error (.total failure origin)) ↔
    ∀ v : Venue, ∃ fault, (v.fetch s.client net pair).result = .error (.venue fault)
  carries : ∀ failure origin, (s.getRate net code).1.result = .error (.total failure origin) →
    ∃ faults : Venue → Venue.Fault,
      (∀ v : Venue, (v.fetch s.client net pair).result = .error (.venue (faults v))) ∧
      failure.errors = Venue.all.map (fun v => (v.name, .venue (faults v))) ∧
      failure.cause = .venue (faults .binance) ∧ origin = .venue (faults .binance) ∧
      failure.message =
        "All exchange requests failed (binance: " ++ (faults .binance).message ++ ")"
  noLot : ∀ failure origin, (s.getRate net code).1.result = .error (.total failure origin) →
    (s.getRate net code).1.asked = [] ∧ (s.getRate net code).2 = s
  returns : (∃ (v : Venue) (quote : Quote), (v.fetch s.client net pair).result = .ok quote) →
    ∃ price, (s.getRate net code).1.result = .ok (some price)

theorem getRateFailsTogether {s : Session} {net : Network} {code : Text} {pair : Pair}
    (supported : Pair.ofCurrency? code = some pair)
    (answered : ∀ v : Venue, (∃ quote, (v.fetch s.client net pair).result = .ok quote) ∨
      ∃ fault, (v.fetch s.client net pair).result = .error (.venue fault)) :
    FailsTogether s net code pair := by
  have run : s.getRate net code = _ := Session.getRateRun supported
  have returns : (∃ (v : Venue) (quote : Quote), (v.fetch s.client net pair).result = .ok quote) →
      ∃ price, (s.getRate net code).1.result = .ok (some price) := by
    rintro ⟨voter, quote, voted⟩
    choose votes each using fun v : Venue => Panel.outcomeAnswered (answered v)
    obtain ⟨_, price, _, _, rate⟩ := Session.ratePriced s.picks each voted
    exact ⟨price, by rw [run]; exact rate⟩
  have together {faults : Venue → Venue.Fault}
      (each : ∀ v : Venue, (v.fetch s.client net pair).result = .error (.venue (faults v))) :
      ∃ trace, s.getRate net code =
        (⟨.error (.total (Session.together faults) (.venue (faults .binance))), trace, [],
          s.picks⟩, s) := by
    obtain ⟨trace, failed⟩ := Session.rateFaults s.picks each
    exact ⟨trace, by rw [run, failed]⟩
  have unanimous {failure origin}
      (failed : (s.getRate net code).1.result = .error (.total failure origin)) (v : Venue) :
      ∃ fault, (v.fetch s.client net pair).result = .error (.venue fault) := by
    refine (answered v).resolve_left fun ⟨quote, quoted⟩ => ?_
    obtain ⟨price, returned⟩ := returns ⟨v, quote, quoted⟩
    rw [failed] at returned
    cases returned
  constructor
  case fails =>
    constructor
    · rintro ⟨failure, origin, failed⟩
      exact unanimous failed
    · intro all
      choose faults each using all
      obtain ⟨trace, result⟩ := together each
      exact ⟨_, _, by rw [result]⟩
  case carries =>
    intro failure origin failed
    choose faults each using unanimous failed
    obtain ⟨trace, result⟩ := together each
    rw [result] at failed
    cases failed
    exact ⟨faults, each, rfl, rfl, rfl, rfl⟩
  case noLot =>
    intro failure origin failed
    choose faults each using unanimous failed
    obtain ⟨trace, result⟩ := together each
    rw [result]
    exact ⟨rfl, rfl⟩
  case returns => exact returns

def outage : Network :=
  (Network.silent.set .kucoin (.timeout "late")).set .gateio
    (.response 200 "[]".toUTF8.toList none)

def outageSession : Session := ⟨false, ⟨false, false⟩, [3]⟩

theorem outageFault (v : Venue) :
    ∃ fault, (v.fetch outageSession.client outage .usd).result = .error (.venue fault) := by
  have test : ((Panel.outcome? (v.fetch outageSession.client outage .usd)).any
      fun outcome => !outcome.isOk) = true := by
    cases v <;> decide +kernel
  obtain ⟨outcome, contributed, bad⟩ := (Option.any_eq_true _ _).mp test
  cases outcome with
  | ok quote => cases bad
  | error fault => exact ⟨fault, Panel.outcomeFault contributed⟩

theorem outageFailsTogether :
    Pair.ofCurrency? (Text.ofString "usd") = some .usd ∧
      (∀ v : Venue, (∃ quote, (v.fetch outageSession.client outage .usd).result = .ok quote) ∨
        ∃ fault, (v.fetch outageSession.client outage .usd).result = .error (.venue fault)) ∧
      FailsTogether outageSession outage (Text.ofString "usd") .usd ∧
      ∃ failure origin, (outageSession.getRate outage (Text.ofString "usd")).1.result =
        .error (.total failure origin) := by
  have supported : Pair.ofCurrency? (Text.ofString "usd") = some .usd := by decide +kernel
  have answered (v : Venue) := Or.inr (a := ∃ quote : Quote,
    (v.fetch outageSession.client outage .usd).result = .ok quote) (outageFault v)
  have together := getRateFailsTogether supported answered
  exact ⟨supported, answered, together, together.fails.mpr outageFault⟩

end QuorumRate
