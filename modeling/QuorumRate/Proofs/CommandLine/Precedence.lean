import QuorumRate.Proofs.CommandLine.Unset
import QuorumRate.Proofs.Session.Lifecycle

/-! Arguments before environment variables. What an option sets is never mixed with what its
variable holds, so a variable whose option is given might as well hold another text, as long as it
can be read: a timeout that is no number ends the run before the arguments are looked at. -/
namespace QuorumRate.CommandLine

def Choices.forget (flag : Flag) (c : Choices) : Choices :=
  match flag with
  | .currency => { c with currency := .removed }
  | .proxy => { c with proxy := .removed }
  | .fetchTimeout => { c with fetchTimeout := .removed }
  | .connectTimeout => { c with connectTimeout := .removed }
  | .help | .verbose => c

section
variable {flag own : Flag} (c : Choices)

theorem setForgotten (flag : Flag) (text : String) :
    (c.forget flag).set flag text = c.set flag text := by cases flag <;> rfl

theorem setElsewhere (text : String) (other : own ≠ flag) :
    (c.forget flag).set own text = (c.set own text).map (·.forget flag) := by
  cases own with
  | fetchTimeout =>
    unfold Choices.set
    cases numberFor .fetchTimeout text with
    | error fault => rfl
    | ok given => cases flag <;> first | contradiction | rfl
  | connectTimeout =>
    unfold Choices.set
    cases numberFor .connectTimeout text with
    | error fault => rfl
    | ok given => cases flag <;> first | contradiction | rfl
  | _ => cases flag <;> first | contradiction | rfl

theorem setAllForgotten {settings : List (Flag × String)} (given : lastOf? flag settings ≠ none) :
    setAll (c.forget flag) settings = setAll c settings := by
  induction settings generalizing c with
  | nil => exact absurd rfl given
  | cons first rest ih =>
    obtain ⟨own, text⟩ := first
    unfold setAll
    rw [List.foldlM_cons, List.foldlM_cons]
    by_cases same : own = flag
    · rw [same, setForgotten]
    · rw [lastOfCons, if_neg same, Option.or_none] at given
      rw [setElsewhere c text same]
      cases c.set own text with
      | error fault => rfl
      | ok next => exact ih next given

end

def Plan.Gives (p : Plan) (flag : Flag) : Prop := p.finish = .choices → p.last? flag ≠ none

theorem Plan.applyForgotten {p : Plan} {flag : Flag} (gives : p.Gives flag) (c : Choices) :
    p.apply (c.forget flag) = p.apply c := by
  by_cases finish : p.finish = .choices
  · unfold apply
    rw [setAllForgotten c (gives finish)]
  · have forgotten := setAllJudged (c.forget flag) p.settings
    have chosen := setAllJudged c p.settings
    unfold apply
    generalize setAll (c.forget flag) p.settings = left at forgotten ⊢
    generalize setAll c p.settings = right at chosen ⊢
    generalize p.settings.findSome? refusalOf? = refusal at forgotten chosen
    cases forgotten with
    | refused =>
      cases chosen
      rfl
    | accepted =>
      cases chosen
      change close _ p.finish = close _ p.finish
      cases ended : p.finish with
      | choices => exact absurd ended finish
      | help => rfl
      | fault fault => rfl

namespace Environment

def set (env : Environment) (flag : Flag) (text : Option String) : Environment :=
  match flag with
  | .currency => { env with currency := text }
  | .proxy => { env with proxy := text }
  | .fetchTimeout => { env with fetchTimeout := text }
  | .connectTimeout => { env with connectTimeout := text }
  | .help | .verbose => env

def AlikeBut (flag : Flag) (env other : Environment) : Prop :=
  ∀ own : Flag, own ≠ flag → env.ownText own = other.ownText own

theorem AlikeBut.set {env other : Environment} {flag : Flag} (alike : env.AlikeBut flag other) :
    other = env.set flag (other.ownText flag) := by
  obtain ⟨currency, proxy, fetchTimeout, connectTimeout⟩ := env
  obtain ⟨currency', proxy', fetchTimeout', connectTimeout'⟩ := other
  have sameCurrency := alike .currency
  have sameProxy := alike .proxy
  have sameFetch := alike .fetchTimeout
  have sameConnect := alike .connectTimeout
  cases flag <;> simp_all [Environment.set, ownText]

theorem secondsLegible {env : Environment} {flag : Flag} (legible : env.seconds? flag ≠ none) :
    ∃ x, secondsOf (env.ownText flag) = .ok x := by
  rw [env.secondsRead]
  cases own : env.seconds? flag with
  | none => exact absurd own legible
  | some x => exact ⟨x, rfl⟩

end Environment

section
variable {env other : Environment} {flag : Flag}

theorem defaultsSet {text : Option String} (legible : flag.isTimeout →
      env.seconds? flag ≠ none ∧ (env.set flag text).seconds? flag ≠ none) :
    (defaults (env.set flag text)).map (·.forget flag) = (defaults env).map (·.forget flag) := by
  cases flag with
  | fetchTimeout =>
    obtain ⟨x, own⟩ := Environment.secondsLegible (legible rfl).1
    obtain ⟨y, set⟩ := Environment.secondsLegible (legible rfl).2
    dsimp only [Environment.ownText, Environment.set] at own set
    unfold defaults Environment.set
    dsimp only
    rw [own, set]
    cases secondsOf env.connectTimeout <;> rfl
  | connectTimeout =>
    obtain ⟨x, own⟩ := Environment.secondsLegible (legible rfl).1
    obtain ⟨y, set⟩ := Environment.secondsLegible (legible rfl).2
    dsimp only [Environment.ownText, Environment.set] at own set
    unfold defaults Environment.set
    dsimp only
    rw [own, set]
    cases secondsOf env.fetchTimeout <;> rfl
  | currency | proxy =>
    unfold defaults Environment.set
    dsimp only
    cases secondsOf env.fetchTimeout <;> cases secondsOf env.connectTimeout <;> rfl
  | _ => rfl

theorem defaultsAlike (alike : env.AlikeBut flag other)
    (legible : flag.isTimeout → env.seconds? flag ≠ none ∧ other.seconds? flag ≠ none) :
    (defaults env).map (·.forget flag) = (defaults other).map (·.forget flag) := by
  rw [alike.set] at legible ⊢
  exact (defaultsSet legible).symm

def prepareFrom (arguments : List String) : Except Misuse Choices → Except Stop Call
  | .error fault => .error (.crashed (.failure (.misuse fault)))
  | .ok choices =>
    match read choices arguments with
    | .error fault => .error (.refused fault)
    | .ok .help => .error .helped
    | .ok (.choices c) => c.call

theorem prepareDefaults (env : Environment) (arguments : List String) :
    prepare env arguments = prepareFrom arguments (defaults env) := by
  unfold prepare
  cases defaults env <;> rfl

theorem prepareForgotten {arguments : List String} (gives : (Plan.ofArguments arguments).Gives flag)
    (start : Except Misuse Choices) :
    prepareFrom arguments (start.map (·.forget flag)) = prepareFrom arguments start := by
  cases start with
  | error fault => rfl
  | ok c =>
    dsimp only [Except.map, prepareFrom]
    rw [Plan.readOfArguments, Plan.readOfArguments, Plan.applyForgotten gives]

theorem prepareAlike {arguments : List String} (alike : env.AlikeBut flag other)
    (gives : (Plan.ofArguments arguments).Gives flag)
    (legible : flag.isTimeout → env.seconds? flag ≠ none ∧ other.seconds? flag ≠ none) :
    prepare env arguments = prepare other arguments := by
  calc prepare env arguments
      = prepareFrom arguments (defaults env) := prepareDefaults env arguments
    _ = prepareFrom arguments ((defaults env).map (·.forget flag)) :=
        (prepareForgotten gives _).symm
    _ = prepareFrom arguments ((defaults other).map (·.forget flag)) := by
        rw [defaultsAlike alike legible]
    _ = prepareFrom arguments (defaults other) := prepareForgotten gives _
    _ = prepare other arguments := (prepareDefaults other arguments).symm

end

/-! What is no number in the environment is told of before anything else is done, and by nothing
that comes later. -/

namespace Environment
variable {env : Environment} {flag : Flag}

theorem secondsIllegible (illegible : env.seconds? flag = none) :
    ∃ text, env.ownText flag = some text ∧ Binary64.ofText? (Text.ofString text) = none ∧
      secondsOf (env.ownText flag) = .error (.notNumber text) := by
  have told := env.secondsRead flag
  unfold seconds? at illegible
  unfold seconds? at told
  cases own : nonEmpty (env.ownText flag) with
  | none =>
    rw [own] at illegible
    exact absurd illegible (by decide)
  | some text =>
    rw [own, Option.getD_some] at illegible told
    rw [illegible] at told
    exact ⟨text, (Option.filter_eq_some_iff.mp own).1, illegible, told⟩

theorem defaultsIllegible (timeout : flag.isTimeout) (illegible : env.seconds? flag = none) :
    ∃ own text, own.isTimeout ∧ env.ownText own = some text ∧
      Binary64.ofText? (Text.ofString text) = none ∧ defaults env = .error (.notNumber text) := by
  cases fetch : env.seconds? .fetchTimeout with
  | none =>
    obtain ⟨text, own, none, told⟩ := secondsIllegible fetch
    refine ⟨.fetchTimeout, text, rfl, own, none, ?_⟩
    dsimp only [ownText] at told
    unfold defaults
    rw [told]
    rfl
  | some x =>
    obtain rfl : flag = .connectTimeout := by
      cases flag with
      | connectTimeout => rfl
      | fetchTimeout =>
        rw [fetch] at illegible
        cases illegible
      | _ => cases timeout
    have legible : env.seconds? .fetchTimeout ≠ none := by simp [fetch]
    obtain ⟨y, read⟩ := secondsLegible legible
    obtain ⟨text, own, none, told⟩ := secondsIllegible illegible
    refine ⟨.connectTimeout, text, rfl, own, none, ?_⟩
    dsimp only [ownText] at read told
    unfold defaults
    rw [read, told]
    rfl

end Environment

theorem proxyFailureStays {text other : String} :
    Settings.proxyFailure? text ≠ some (.misuse (.notNumber other)) := by
  intro failed
  unfold Settings.proxyFailure? at failed
  split at failed
  · obtain ⟨place, _, same⟩ := Option.map_eq_some_iff.mp failed
    cases same
  · rename_i failure unread
    cases failed
    unfold Settings.readProxy at unread
    cases read : Url.ofText text with
    | error fault =>
      rw [read] at unread
      cases unread
    | ok url =>
      rw [read] at unread
      dsimp only [Except.mapError, bind, Except.bind] at unread
      split at unread
      · split at unread
        · cases bare : url.withoutCredentials with
          | error fault =>
            rw [bare] at unread
            cases unread
          | ok url =>
            rw [bare] at unread
            cases unread
        · cases unread
      · cases unread

theorem startStays {proxy : Option String} {timeout connectTimeout : Seconds} {picks : List Int}
    {text : String} :
    Session.start ⟨true, proxy, timeout, connectTimeout⟩ picks ≠
      .error (.misuse (.notNumber text)) := by
  unfold Session.start Settings.check
  dsimp only
  cases proxy with
  | none => nofun
  | some address =>
    dsimp only
    cases failed : Settings.proxyFailure? address with
    | none => nofun
    | some failure =>
      intro same
      cases same
      exact proxyFailureStays failed

theorem fetchRateStays {net : Network} {picks : List Int} {currency : Given String}
    {proxy : Given (Option String)} {fetchTimeout connectTimeout : Binary64} {text : String} :
    (fetchRate net picks currency proxy fetchTimeout connectTimeout).ending ≠
      .error (.failure (.misuse (.notNumber text))) := by
  unfold fetchRate
  cases proxy with
  | removed => nofun
  | value proxy =>
    dsimp only
    cases started : Session.start ⟨true, proxy, .real fetchTimeout, .real connectTimeout⟩ picks with
    | error failure =>
      intro crashed
      cases crashed
      exact startStays started
    | ok session =>
      cases currency with
      | removed => nofun
      | value currency =>
        intro crashed
        obtain ⟨failure, same, result⟩ := concludeFails crashed
        cases same
        obtain ⟨rfl, _⟩ := Session.startOpen started
        exact Session.rateBlameless rfl result trivial

theorem readableStays {env : Environment} (readable : env.Readable) (arguments : List String)
    (net : Network) (picks : List Int) (interrupted : Bool) (text : String) :
    (run env arguments net picks interrupted).ending ≠
      .error (.failure (.misuse (.notNumber text))) := by
  have outcome := prepared env arguments
  rw [runPrepared]
  generalize prepare env arguments = result at outcome ⊢
  cases outcome with
  | unreadable unreadable => exact absurd readable unreadable
  | called =>
    cases interrupted with
    | true => nofun
    | false => exact fetchRateStays
  | _ => nofun

structure TakesPrecedence (env other : Environment) (flag : Flag) (arguments : List String) :
    Prop where
  plan : ∀ c, read c arguments = (Plan.ofArguments arguments).apply c
  same : (flag.isTimeout → env.seconds? flag ≠ none ∧ other.seconds? flag ≠ none) →
    ∀ net picks interrupted,
      run env arguments net picks interrupted = run other arguments net picks interrupted
  crashes : flag.isTimeout → env.seconds? flag = none →
    ∃ own text, own.isTimeout ∧ env.ownText own = some text ∧
      Binary64.ofText? (Text.ofString text) = none ∧
      ∀ net picks interrupted, run env arguments net picks interrupted =
        ⟨.error (.failure (.misuse (.notNumber text))), [], none⟩
  differs : flag.isTimeout → env.seconds? flag = none → other.Readable →
    ∀ net picks interrupted,
      (run env arguments net picks interrupted).ending ≠
        (run other arguments net picks interrupted).ending

theorem argumentsPrecede {env other : Environment} {flag : Flag} {arguments : List String}
    (alike : env.AlikeBut flag other) (gives : (Plan.ofArguments arguments).Gives flag) :
    TakesPrecedence env other flag arguments := by
  have crashes (timeout : flag.isTimeout) (illegible : env.seconds? flag = none) :
      ∃ own text, own.isTimeout ∧ env.ownText own = some text ∧
        Binary64.ofText? (Text.ofString text) = none ∧
        ∀ net picks interrupted, run env arguments net picks interrupted =
          ⟨.error (.failure (.misuse (.notNumber text))), [], none⟩ := by
    obtain ⟨own, text, ownTimeout, held, none, told⟩ :=
      Environment.defaultsIllegible timeout illegible
    refine ⟨own, text, ownTimeout, held, none, fun net picks interrupted => ?_⟩
    rw [runPrepared, prepareDefaults, told]
    rfl
  constructor
  case plan => exact fun c => Plan.readOfArguments c arguments
  case same =>
    intro legible net picks interrupted
    rw [runPrepared, runPrepared, prepareAlike alike gives legible]
  case crashes => exact crashes
  case differs =>
    intro timeout illegible readable net picks interrupted same
    obtain ⟨_, text, _, _, _, crashed⟩ := crashes timeout illegible
    rw [crashed] at same
    exact readableStays readable arguments net picks interrupted text same.symm

theorem spareNumberPrecedes :
    Environment.AlikeBut .fetchTimeout { Environment.unset with fetchTimeout := some "abc" }
        { Environment.unset with fetchTimeout := some " 1_0e1 " } ∧
      (Plan.ofArguments ["--fetch=5", "--proxy", "-"]).Gives .fetchTimeout ∧
      TakesPrecedence { Environment.unset with fetchTimeout := some "abc" }
        { Environment.unset with fetchTimeout := some " 1_0e1 " } .fetchTimeout
        ["--fetch=5", "--proxy", "-"] := by
  have alike : Environment.AlikeBut .fetchTimeout
      { Environment.unset with fetchTimeout := some "abc" }
      { Environment.unset with fetchTimeout := some " 1_0e1 " } := by
    intro own other
    cases own <;> first | rfl | contradiction
  have gives : (Plan.ofArguments ["--fetch=5", "--proxy", "-"]).Gives .fetchTimeout :=
    fun _ => by decide
  exact ⟨alike, gives, argumentsPrecede alike gives⟩

theorem spareNumberCrashes :
    Environment.AlikeBut .fetchTimeout { Environment.unset with fetchTimeout := some "abc" }
        Environment.unset ∧
      (run { Environment.unset with fetchTimeout := some "abc" } ["--fetch-timeout", "5"]
        geminiQuotes [] false).ending = .error (.failure (.misuse (.notNumber "abc"))) ∧
      (run .unset ["--fetch-timeout", "5"] geminiQuotes [] false).ending.toOption.map
          (fun ending => (ending.status, ending.output, ending.clients.map (·.proxy))) =
        some (0, "3.5\n", [none]) := by
  refine ⟨?_, rfl, by decide +kernel⟩
  intro own other
  cases own <;> first | rfl | contradiction

end QuorumRate.CommandLine
