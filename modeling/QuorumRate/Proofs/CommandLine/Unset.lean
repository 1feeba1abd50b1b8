import QuorumRate.Proofs.CommandLine.Call
import QuorumRate.Proofs.Session.Failures

/-! Environment variables that are set to nothing. Three of them count as not set at all; the one
for the proxy is taken for an address, and none has an empty text. -/
namespace QuorumRate.CommandLine

def proxied (text : String) : Given (Option String) → Given (Option String)
  | .value none => .value (some text)
  | given => given

def Choices.proxied (text : String) (c : Choices) : Choices :=
  { c with proxy := CommandLine.proxied text c.proxy }

def Request.proxied (text : String) : Request → Request
  | .help => .help
  | .choices c => .choices (c.proxied text)

def Call.proxied (text : String) (call : Call) : Call :=
  { call with proxy := CommandLine.proxied text call.proxy }

section
variable (text : String)

theorem setProxied (c : Choices) (flag : Flag) (own : String) :
    (c.proxied text).set flag own = (c.set flag own).map (·.proxied text) := by
  cases flag with
  | proxy =>
    unfold Choices.set Choices.proxied
    dsimp only [Except.map]
    split <;> rfl
  | fetchTimeout =>
    unfold Choices.set
    cases numberFor .fetchTimeout own <;> rfl
  | connectTimeout =>
    unfold Choices.set
    cases numberFor .connectTimeout own <;> rfl
  | _ => rfl

theorem setAllProxied (c : Choices) (settings : List (Flag × String)) :
    setAll (c.proxied text) settings = (setAll c settings).map (·.proxied text) := by
  induction settings generalizing c with
  | nil => rfl
  | cons first rest ih =>
    unfold setAll
    rw [List.foldlM_cons, List.foldlM_cons, setProxied]
    cases c.set first.1 first.2 with
    | error fault => rfl
    | ok next => exact ih next

theorem readProxied (c : Choices) (arguments : List String) :
    read (c.proxied text) arguments = (read c arguments).map (·.proxied text) := by
  rw [Plan.readOfArguments, Plan.readOfArguments]
  unfold Plan.apply
  rw [setAllProxied]
  cases setAll c (Plan.ofArguments arguments).settings with
  | error fault => rfl
  | ok last => cases (Plan.ofArguments arguments).finish <;> rfl

theorem callProxied (c : Choices) : (c.proxied text).call = c.call.map (·.proxied text) := by
  unfold Choices.call Choices.proxied
  dsimp only
  cases guarded .fetchTimeout c.fetchTimeout with
  | error stop => rfl
  | ok fetchTimeout => cases guarded .connectTimeout c.connectTimeout <;> rfl

theorem defaultsProxied (env : Environment) :
    defaults { env with proxy := some text } =
      (defaults { env with proxy := none }).map (·.proxied text) := by
  unfold defaults
  dsimp only
  cases secondsOf env.fetchTimeout with
  | error fault => rfl
  | ok fetchTimeout => cases secondsOf env.connectTimeout <;> rfl

theorem prepareProxied (env : Environment) (arguments : List String) :
    prepare { env with proxy := some text } arguments =
      (prepare { env with proxy := none } arguments).map (·.proxied text) := by
  unfold prepare
  rw [defaultsProxied]
  cases defaults { env with proxy := none } with
  | error fault => rfl
  | ok c =>
    dsimp only [Except.map]
    rw [readProxied]
    cases read c arguments with
    | error fault => rfl
    | ok request =>
      cases request with
      | help => rfl
      | choices c => exact callProxied text c

end

def noAddress : Url := ⟨"", "", "", none, "", none, none⟩

theorem emptyProxyFails (timeout connectTimeout : Seconds) (picks : List Int) :
    Session.start ⟨true, some "", timeout, connectTimeout⟩ picks =
      .error (.misuse (.unknownProxyScheme noAddress)) := by
  have failed : Settings.proxyFailure? "" = some (.misuse (.unknownProxyScheme noAddress)) := rfl
  unfold Session.start Settings.check
  dsimp only
  rw [failed]
  rfl

theorem concludeFails {currency : String} {client : ClientRecord} {rate : RateRun} {left : Session}
    {crash : Crash} (crashed : (conclude currency client rate left).ending = .error crash) :
    ∃ failure, crash = .failure failure ∧ rate.result = .error (.other failure) := by
  unfold conclude at crashed
  dsimp only at crashed
  split at crashed
  · cases crashed
  · cases crashed
  · cases crashed
  · rename_i failure result
    cases crashed
    exact ⟨failure, rfl, result⟩

namespace Call

theorem directEnding (call : Call) (net : Network) (picks : List Int)
    (direct : call.proxy = .value none) :
    (call.run net picks false).ending =
      match call.currency with
      | .removed => .error (.removedValue .currency)
      | .value currency =>
        let (rate, left) :=
          Session.getLastRate ⟨true, ⟨true, false⟩, picks⟩ net (Text.ofString currency)
        (conclude currency
          ⟨none, Settings.timeouts ⟨true, none, .real call.fetchTimeout, .real call.connectTimeout⟩⟩
          rate left).ending := by
  obtain ⟨currency, proxy, fetchTimeout, connectTimeout, verbose⟩ := call
  cases direct
  unfold run fetchRate
  dsimp only
  rw [if_neg Bool.false_ne_true]
  cases currency <;> rfl

variable {call : Call} {net : Network} {picks : List Int}

theorem directStays (direct : call.proxy = .value none) (fault : Misuse) :
    (call.run net picks false).ending ≠ .error (.failure (.misuse fault)) := by
  rw [call.directEnding net picks direct]
  intro crashed
  split at crashed
  · cases crashed
  · obtain ⟨failure, same, result⟩ := concludeFails crashed
    cases same
    exact Session.rateBlameless rfl result trivial

theorem emptyRaises (direct : call.proxy = .value none) :
    ((call.proxied "").run net picks false).ending =
      .error (.failure (.misuse (.unknownProxyScheme noAddress))) := by
  obtain ⟨currency, proxy, fetchTimeout, connectTimeout, verbose⟩ := call
  cases direct
  unfold run fetchRate
  dsimp only [Call.proxied, CommandLine.proxied]
  rw [if_neg Bool.false_ne_true, emptyProxyFails]

theorem emptyInterrupted : (call.proxied "").run net picks true = call.run net picks true := by
  obtain ⟨currency, proxy, fetchTimeout, connectTimeout, verbose⟩ := call
  obtain (_ | _) | _ := proxy <;> rfl

theorem proxiedKept {text : String} (kept : call.proxy ≠ .value none) :
    call.proxied text = call := by
  obtain ⟨currency, proxy, fetchTimeout, connectTimeout, verbose⟩ := call
  obtain (_ | _) | _ := proxy
  · exact absurd rfl kept
  · rfl
  · rfl

end Call

def AsksDirectly (env : Environment) (arguments : List String) : Prop :=
  ∃ call, prepare env arguments = .ok call ∧ call.proxy = .value none

structure EmptyAsUnset (env : Environment) (arguments : List String) : Prop where
  runs : ∀ other net picks interrupted, run other arguments net picks interrupted =
    proceed net picks interrupted (prepare other arguments)
  currency : ∀ net picks interrupted,
    run { env with currency := some "" } arguments net picks interrupted =
      run { env with currency := none } arguments net picks interrupted
  fetchTimeout : ∀ net picks interrupted,
    run { env with fetchTimeout := some "" } arguments net picks interrupted =
      run { env with fetchTimeout := none } arguments net picks interrupted
  connectTimeout : ∀ net picks interrupted,
    run { env with connectTimeout := some "" } arguments net picks interrupted =
      run { env with connectTimeout := none } arguments net picks interrupted
  proxy : ∀ net picks interrupted,
    (interrupted = true ∨ ¬ AsksDirectly { env with proxy := none } arguments) →
    run { env with proxy := some "" } arguments net picks interrupted =
      run { env with proxy := none } arguments net picks interrupted
  proxyFails : ∀ net picks, AsksDirectly { env with proxy := none } arguments →
    (run { env with proxy := some "" } arguments net picks false).ending =
        .error (.failure (.misuse (.unknownProxyScheme noAddress))) ∧
      (run { env with proxy := none } arguments net picks false).ending ≠
        .error (.failure (.misuse (.unknownProxyScheme noAddress)))

theorem nonEmptyEmpty : nonEmpty (some "") = nonEmpty none := rfl

theorem secondsEmpty : secondsOf (some "") = secondsOf none := rfl

theorem runEmptyAsUnset (env : Environment) (arguments : List String) :
    EmptyAsUnset env arguments := by
  constructor
  case runs => exact fun env => runPrepared env arguments
  case currency =>
    intro net picks interrupted
    unfold run defaults
    dsimp only
    rw [nonEmptyEmpty]
  case fetchTimeout =>
    intro net picks interrupted
    unfold run defaults
    dsimp only
    rw [secondsEmpty]
  case connectTimeout =>
    intro net picks interrupted
    unfold run defaults
    dsimp only
    rw [secondsEmpty]
  case proxy =>
    intro net picks interrupted same
    rw [runPrepared, runPrepared, prepareProxied]
    cases made : prepare { env with proxy := none } arguments with
    | error stop => rfl
    | ok call =>
      change (call.proxied "").run net picks interrupted = call.run net picks interrupted
      obtain rfl | undirected := same
      · exact Call.emptyInterrupted
      · rw [Call.proxiedKept fun direct => undirected ⟨call, made, direct⟩]
  case proxyFails =>
    rintro net picks ⟨call, made, direct⟩
    rw [runPrepared, runPrepared, prepareProxied, made]
    exact ⟨Call.emptyRaises direct, Call.directStays direct _⟩

theorem emptyProxyCrashes :
    (run { Environment.unset with proxy := some "" } [] geminiQuotes [] false).ending =
        .error (.failure (.misuse (.unknownProxyScheme noAddress))) ∧
      (run { Environment.unset with proxy := none } [] geminiQuotes [] false).ending.toOption.map
          (fun ending => (ending.status, ending.output, ending.clients)) =
        some (0, "3.5\n", [⟨none, [.ten, .ten, .ten, .ten]⟩]) :=
  ⟨rfl, by decide +kernel⟩

end QuorumRate.CommandLine
