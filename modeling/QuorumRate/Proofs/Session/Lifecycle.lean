import QuorumRate.Proofs.Quorum.Ballot
import QuorumRate.Proofs.Session.Rate

/-! What a session carries from one step to the next: whether its client is closed, and the picks
that are left. It starts if it can have a client of its own, or is lent one and no proxy besides. A
client that was lent is closed by its owner alone. -/
namespace QuorumRate

namespace Quorum

theorem aggregatePicks (heldOut : String) (picks : List Int) (outcomes : List (String × Outcome)) :
    (aggregate heldOut picks outcomes).picks =
      picks.drop (aggregate heldOut picks outcomes).asked.length := by
  unfold aggregate
  split
  · rfl
  · rename_i b _
    exact (evictLot heldOut b picks).2.1

end Quorum

theorem Settings.checkOk {settings : Settings} : settings.check = .ok () ↔
    ∀ proxy ∈ settings.proxy, settings.isOwned ∧ proxyFailure? proxy = none := by
  unfold check
  cases settings.proxy with
  | none => simp
  | some proxy =>
    by_cases owned : settings.isOwned
    · cases refused : proxyFailure? proxy <;> simp [owned, refused]
    · simp [owned]

namespace Session
variable {client : Client} {net : Network} {pair : Pair}

theorem ratePicks (client : Client) (net : Network) (picks : List Int) (code : Text) :
    (rateIn client net picks code).picks =
      picks.drop (rateIn client net picks code).asked.length := by
  unfold rateIn
  split
  · unfold rateOf
    dsimp only
    split
    · rfl
    · exact Quorum.aggregatePicks ..
  · rfl

theorem fetchClosed (closed : client.isClosed = true) (v : Venue) :
    v.fetch client net pair = .fail .closed := by
  unfold Venue.fetch Client.getJson Client.get
  rw [if_pos closed]
  rfl

theorem rateClosed (closed : client.isClosed = true) (picks : List Int) :
    rateOf client net picks pair = ⟨.error (.other .closed), .empty, [], picks⟩ := by
  obtain ⟨first, others, order⟩ :=
    List.exists_cons_of_ne_nil (List.ne_nil_of_mem (Venue.binance.memFinishing net))
  have panel : entrants client net pair net.finishing =
      (first :: others).map fun v => (v.name, .fail .closed) := by
    unfold entrants
    simp only [order, fetchClosed closed]
  have silent : Trace.concat ((entrants client net pair net.finishing).map (Panel.traceOf pair)) =
      .empty := by
    refine Trace.concatEmpty fun trace member => ?_
    rw [panel, List.map_map] at member
    obtain ⟨v, _, rfl⟩ := List.mem_map.mp member
    rfl
  have joined : Panel.join pair (entrants client net pair Venue.all)
      (entrants client net pair net.finishing) = .fail .closed := by
    unfold Panel.join
    rw [silent, panel]
    rfl
  unfold rateOf
  simp only [joined]
  rfl

/-- A step of a session. A session that is used for a block is closed at its end, as by `close`; a
borrowed client can be shut by its owner. -/
inductive Step
  | rate (net : Network) (code : Text)
  | close
  | shut

def step (s : Session) : Step → Session × List RateRun
  | .rate net code => ((s.getRate net code).2, [(s.getRate net code).1])
  | .close => (s.close, [])
  | .shut => (s.closeClient, [])

def history (s : Session) : List Step → Session × List RateRun
  | [] => (s, [])
  | first :: rest =>
    ((history (s.step first).1 rest).1, (s.step first).2 ++ (history (s.step first).1 rest).2)

def lots (runs : List RateRun) : Nat := (runs.map (·.asked.length)).sum

def Step.closes (isOwned : Bool) : Step → Bool
  | .rate .. => false
  | .close => isOwned
  | .shut => true

def later (s : Session) (isClosed : Bool) (lots : Nat) : Session :=
  { s with
    client := { s.client with isClosed := s.client.isClosed || isClosed }
    picks := s.picks.drop lots }

theorem stepLater (s : Session) (next : Step) :
    (s.step next).1 = s.later (next.closes s.isOwned) (lots (s.step next).2) := by
  obtain ⟨isOwned, ⟨follows, isClosed⟩, picks⟩ := s
  cases next with
  | rate net code => simp [step, later, getRate, ratePicks, Step.closes, lots]
  | close => cases isOwned <;> simp [step, later, close, closeClient, Step.closes, lots]
  | shut => simp [step, later, closeClient, Step.closes, lots]

theorem historyLater (s : Session) (past : List Step) :
    (s.history past).1 =
      s.later (past.any (Step.closes s.isOwned)) (lots (s.history past).2) := by
  induction past generalizing s with
  | nil => simp [history, later, lots]
  | cons first rest ih =>
    rw [history, ih, stepLater]
    simp [later, lots, Bool.or_assoc]

theorem startIff {settings : Settings} {picks : List Int} {session : Session} :
    start settings picks = .ok session ↔
      settings.check = .ok () ∧
        session = ⟨settings.isOwned, ⟨settings.isOwned, false⟩, picks⟩ := by
  unfold start
  cases settings.check with
  | error failure => simp [bind, Except.bind]
  | ok _ => simp [bind, Except.bind, pure, Except.pure, eq_comm]

theorem startOpen {settings : Settings} {picks : List Int} {s : Session}
    (started : start settings picks = .ok s) :
    s = ⟨settings.isOwned, ⟨settings.isOwned, false⟩, picks⟩ ∧
      ∀ others, start settings others = .ok { s with picks := others } := by
  obtain ⟨checked, rfl⟩ := startIff.mp started
  exact ⟨rfl, fun _ => startIff.mpr ⟨checked, rfl⟩⟩

theorem closeIdle {s : Session} (idle : s.client.isClosed = true ∨ s.isOwned = false) :
    s.close = s := by
  obtain ⟨isOwned, ⟨follows, isClosed⟩, picks⟩ := s
  rcases idle with rfl | rfl
  · cases isOwned <;> rfl
  · rfl

theorem getRateClosed {s : Session} {code : Text} (closed : s.client.isClosed = true)
    (supported : Pair.ofCurrency? code = some pair) :
    s.getRate net code = (⟨.error (.other .closed), .empty, [], s.picks⟩, s) := by
  rw [getRateRun supported, rateClosed closed]

end Session

structure Lifecycle (settings : Settings) (picks : List Int) (past : List Session.Step)
    (s : Session) (lots : Nat) : Prop where
  closed : s.client.isClosed = true ↔
    Session.Step.shut ∈ past ∨ settings.isOwned = true ∧ Session.Step.close ∈ past
  idle : s.client.isClosed = true ∨ settings.isOwned = false → s.close = s
  independent : s.client.isClosed = false →
    ∃ fresh, Session.start settings (picks.drop lots) = .ok fresh ∧
      ∀ net code, (s.getRate net code).1 = (fresh.getRate net code).1
  stopped : s.client.isClosed = true → ∀ net code pair, Pair.ofCurrency? code = some pair →
    (s.getRate net code).1.result = .error (.other .closed) ∧
      (s.getRate net code).1.trace.requests = [] ∧ (s.getRate net code).1.asked = [] ∧
      (s.getRate net code).2 = s
  unsupported : ∀ net code, Pair.ofCurrency? code = none →
    (s.getRate net code).1.result = .ok none ∧ (s.getRate net code).1.trace.requests = [] ∧
      (s.getRate net code).1.asked = [] ∧ (s.getRate net code).2 = s

theorem sessionLifecycle {settings : Settings} {picks : List Int} {s : Session}
    (started : Session.start settings picks = .ok s) (past : List Session.Step) :
    Lifecycle settings picks past (s.history past).1 (Session.lots (s.history past).2) := by
  obtain ⟨rfl, again⟩ := Session.startOpen started
  rw [Session.historyLater]
  generalize Session.lots _ = lots
  constructor
  case closed =>
    simp only [Session.later, Bool.false_or, List.any_eq_true]
    constructor
    · rintro ⟨next, member, closes⟩
      cases next with
      | rate net code => cases closes
      | close => exact .inr ⟨closes, member⟩
      | shut => exact .inl member
    · rintro (member | ⟨owned, member⟩)
      · exact ⟨.shut, member, rfl⟩
      · exact ⟨.close, member, owned⟩
  case idle => exact Session.closeIdle
  case independent =>
    intro isOpen
    refine ⟨_, again _, fun net code => ?_⟩
    simp only [Session.later] at isOpen ⊢
    rw [isOpen]
  case stopped =>
    intro closed net code pair supported
    rw [Session.getRateClosed closed supported]
    exact ⟨rfl, rfl, rfl, rfl⟩
  case unsupported =>
    intro net code unsupported
    rw [Session.getRateUnsupported unsupported]
    exact ⟨rfl, rfl, rfl, rfl⟩

def twoTickers : Network :=
  (Network.silent.set .coinbase
      (.response 200 "\x7b\"bid\":1,\"ask\":3\x7d".toUTF8.toList none)).set
    .binance (.response 200 "\x7b\"bidPrice\":4,\"askPrice\":6\x7d".toUTF8.toList none)

def ownedSettings : Settings := ⟨true, none, .ten, .ten⟩

def eventfulPast : List Session.Step :=
  [.rate twoTickers (Text.ofString "usd"), .rate twoTickers (Text.ofString "eur"),
    .rate .silent (Text.ofString "usd"), .close]

theorem eventfulLifecycle :
    ∃ s, Session.start ownedSettings [3, 1] = .ok s ∧
      Lifecycle ownedSettings [3, 1] eventfulPast (s.history eventfulPast).1 1 ∧
      (s.history eventfulPast).1 = ⟨true, ⟨true, true⟩, [1]⟩ := by
  have started : Session.start ownedSettings [3, 1] = .ok ⟨true, ⟨true, false⟩, [3, 1]⟩ := rfl
  have drawn : Session.lots (Session.history ⟨true, ⟨true, false⟩, [3, 1]⟩ eventfulPast).2 = 1 := by
    decide +kernel
  have lifecycle := sessionLifecycle started eventfulPast
  rw [drawn] at lifecycle
  exact ⟨_, started, lifecycle, by decide +kernel⟩

end QuorumRate
