import Mathlib.Algebra.Order.Field.Power
import Mathlib.Algebra.Order.Ring.Rat
import Mathlib.Tactic.Positivity
import QuorumRate.Proofs.CommandLine.Call

/-! The timeouts that a rate is asked for with. A text that is no number, or a number that is not
above zero, ends the run as a wrong use does, before there is a client; but what a text can name and
no comparison turns away, a NaN, is taken for a timeout. -/
namespace QuorumRate

namespace Binary64

def Positive : Binary64 → Prop
  | .finite negative significand exponent =>
    0 < (if negative then -(significand : ℚ) else significand) * 2 ^ exponent
  | .infinity negative => negative = false
  | .nan => False

theorem acceptedIff (x : Binary64) : x.isNotPositive = false ↔ x.Positive ∨ x = .nan := by
  cases x with
  | finite negative significand exponent =>
    have power : (0 : ℚ) < 2 ^ exponent := by positivity
    cases negative with
    | true => simp [isNotPositive, Positive, power]
    | false => simp [isNotPositive, Positive, power, Nat.pos_iff_ne_zero]
  | infinity negative => simp [isNotPositive, Positive]
  | nan => simp [isNotPositive, Positive]

end Binary64

namespace CommandLine

def Run.IsWrongUse (r : Run) : Prop := ∃ text, r.ending = .ok ⟨2, "", text, [], [], []⟩

theorem refusedWrongUse (fault : UsageFault) : (refuse fault).IsWrongUse := ⟨_, rfl⟩

def Passes (env : Environment) (p : Plan) (flag : Flag) (x : Binary64) : Prop :=
  secondsFor? env p flag = some x ∧ (x.Positive ∨ x = .nan)

theorem dashesRead : Binary64.ofText? (Text.ofString "--") = none := by decide

theorem memRefused {p : Plan} {flag : Flag} {text : String} (given : (flag, text) ∈ p.settings)
    (timeout : flag.isTimeout) (illegible : Illegible text) : p.refusal? ≠ none := by
  have own : refusalOf? (flag, text) = some (.badNumber flag text) := if_pos ⟨timeout, illegible⟩
  intro accepted
  have all := (Option.or_eq_none_iff.mp accepted).1
  rw [List.findSome?_eq_none_iff.mp all _ given] at own
  cases own

namespace Prepared
variable {env : Environment} {p : Plan} {flag : Flag} {x : Binary64}

theorem dashesPass (dashes : p.last? flag = some "--") : ¬ Passes env p flag x := by
  rintro ⟨seconds, _⟩
  unfold secondsFor? at seconds
  rw [dashes] at seconds
  dsimp only at seconds
  rw [dashesRead] at seconds
  cases seconds

theorem lowPasses {y : Binary64} (seconds : secondsFor? env p flag = some x)
    (low : x.isNotPositive = true) : ¬ Passes env p flag y := by
  rintro ⟨same, accepted⟩
  cases seconds.symm.trans same
  rw [(Binary64.acceptedIff x).mpr accepted] at low
  cases low

theorem calledPasses {call : Call} (outcome : Prepared env p (.ok call)) :
    Passes env p .fetchTimeout call.fetchTimeout ∧
      Passes env p .connectTimeout call.connectTimeout := by
  cases outcome with
  | called _ _ _ fetch fetchHigh connect connectHigh =>
    exact ⟨⟨fetch, (Binary64.acceptedIff _).mp fetchHigh⟩,
      ⟨connect, (Binary64.acceptedIff _).mp connectHigh⟩⟩

theorem callsIff {result : Except Stop Call} (outcome : Prepared env p result) :
    (∃ call, result = .ok call) ↔ env.Readable ∧ p.refusal? = none ∧ p.finish = .choices ∧
      ∀ flag : Flag, flag.isTimeout → ∃ x, Passes env p flag x := by
  constructor
  · rintro ⟨call, rfl⟩
    obtain ⟨fetch, connect⟩ := calledPasses outcome
    cases outcome with
    | called readable accepted finish =>
      refine ⟨readable, accepted, finish, fun flag timeout => ?_⟩
      cases flag with
      | fetchTimeout => exact ⟨_, fetch⟩
      | connectTimeout => exact ⟨_, connect⟩
      | _ => cases timeout
  · rintro ⟨readable, accepted, finish, passes⟩
    cases outcome with
    | unreadable unreadable => exact absurd readable unreadable
    | refused _ refused =>
      rw [accepted] at refused
      cases refused
    | helped _ _ helped =>
      rw [finish] at helped
      cases helped
    | removed _ _ _ timeout dashes =>
      obtain ⟨x, own⟩ := passes _ timeout
      exact absurd own (dashesPass dashes)
    | notPositive _ _ _ timeout seconds low =>
      obtain ⟨y, own⟩ := passes _ timeout
      exact absurd own (lowPasses seconds low)
    | called => exact ⟨_, rfl⟩

theorem illegibleRefused {result : Except Stop Call} (outcome : Prepared env p result)
    (readable : env.Readable) {text : String} (timeout : flag.isTimeout)
    (given : (flag, text) ∈ p.settings) (illegible : Illegible text) :
    ∃ fault, result = .error (.refused fault) := by
  have refused := memRefused given timeout illegible
  cases outcome with
  | unreadable unreadable => exact absurd readable unreadable
  | refused => exact ⟨_, rfl⟩
  | helped _ accepted => exact absurd accepted refused
  | removed _ accepted => exact absurd accepted refused
  | notPositive => exact ⟨_, rfl⟩
  | called _ accepted => exact absurd accepted refused

theorem lowRefused {result : Except Stop Call} (outcome : Prepared env p result)
    (readable : env.Readable) (unhelped : p.finish ≠ .help)
    (kept : ∀ flag : Flag, flag.isTimeout → p.last? flag ≠ some "--") (timeout : flag.isTimeout)
    (seconds : secondsFor? env p flag = some x) (low : x.isNotPositive = true) :
    ∃ fault, result = .error (.refused fault) := by
  cases outcome with
  | unreadable unreadable => exact absurd readable unreadable
  | refused => exact ⟨_, rfl⟩
  | helped _ _ helped => exact absurd helped unhelped
  | removed _ _ _ timeout dashes => exact absurd dashes (kept _ timeout)
  | notPositive => exact ⟨_, rfl⟩
  | called readable accepted finish fetch fetchHigh connect connectHigh =>
    obtain ⟨fetchPasses, connectPasses⟩ :=
      calledPasses (.called readable accepted finish fetch fetchHigh connect connectHigh)
    cases flag with
    | fetchTimeout => exact absurd fetchPasses (lowPasses seconds low)
    | connectTimeout => exact absurd connectPasses (lowPasses seconds low)
    | _ => cases timeout

end Prepared

structure TimeoutsGuarded (env : Environment) (arguments : List String) (p : Plan) : Prop where
  plan : ∀ c, read c arguments = p.apply c
  runs : ∀ net picks interrupted, run env arguments net picks interrupted =
    proceed net picks interrupted (prepare env arguments)
  outcome : Prepared env p (prepare env arguments)
  called : ∀ call, prepare env arguments = .ok call →
    Passes env p .fetchTimeout call.fetchTimeout ∧ Passes env p .connectTimeout call.connectTimeout
  calls : (∃ call, prepare env arguments = .ok call) ↔
    env.Readable ∧ p.refusal? = none ∧ p.finish = .choices ∧
      ∀ flag : Flag, flag.isTimeout → ∃ x, Passes env p flag x
  illegible : env.Readable → ∀ flag text, flag.isTimeout → (flag, text) ∈ p.settings →
    Illegible text → ∀ net picks interrupted, (run env arguments net picks interrupted).IsWrongUse
  notPositive : env.Readable → p.finish ≠ .help →
    (∀ flag : Flag, flag.isTimeout → p.last? flag ≠ some "--") →
    ∀ (flag : Flag) x, flag.isTimeout → secondsFor? env p flag = some x → ¬ x.Positive → x ≠ .nan →
    ∀ net picks interrupted, (run env arguments net picks interrupted).IsWrongUse

theorem runTimeoutsGuarded (env : Environment) (arguments : List String) :
    TimeoutsGuarded env arguments (.ofArguments arguments) := by
  have outcome := prepared env arguments
  have wrongUse (refused : ∃ fault, prepare env arguments = .error (.refused fault))
      (net : Network) (picks : List Int) (interrupted : Bool) :
      (run env arguments net picks interrupted).IsWrongUse := by
    obtain ⟨fault, stopped⟩ := refused
    rw [runPrepared, stopped]
    exact refusedWrongUse fault
  constructor
  case plan => exact fun c => Plan.readOfArguments c arguments
  case runs => exact runPrepared env arguments
  case outcome => exact outcome
  case called =>
    intro call made
    rw [made] at outcome
    exact outcome.calledPasses
  case calls => exact outcome.callsIff
  case illegible =>
    intro readable flag text timeout given illegible
    exact wrongUse (outcome.illegibleRefused readable timeout given illegible)
  case notPositive =>
    intro readable unhelped kept flag x timeout seconds unpositive number
    have low : x.isNotPositive = true := by
      by_contra high
      obtain positive | nan := (Binary64.acceptedIff x).mp (eq_false_of_ne_true high)
      · exact unpositive positive
      · exact number nan
    exact wrongUse (outcome.lowRefused readable unhelped kept timeout seconds low)

theorem nanTimeoutTaken :
    ¬ Binary64.nan.Positive ∧
      (prepare .unset ["--fetch-timeout", "nan"]).toOption.map (·.fetchTimeout) = some .nan ∧
      (run .unset ["--fetch-timeout", "nan"] geminiQuotes [] false).ending.toOption.map
          (fun ending => (ending.status, ending.output, ending.clients)) =
        some (0, "3.5\n", [⟨none, [.ten, .real .nan, .real .nan, .real .nan]⟩]) :=
  ⟨id, by decide +kernel, by decide +kernel⟩

end CommandLine
end QuorumRate
