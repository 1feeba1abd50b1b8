import QuorumRate.CommandLine.Console
import QuorumRate.Proofs.CommandLine.Plan

/-! A run of the program in two stages. Environment and arguments alone decide whether it stops
early or asks for a rate, and with which values; only then do the network and the lots count. -/
namespace QuorumRate.CommandLine

structure Call where
  currency : Given String
  proxy : Given (Option String)
  fetchTimeout : Binary64
  connectTimeout : Binary64
  verbose : Bool
  deriving DecidableEq, Repr

def Call.run (call : Call) (net : Network) (picks : List Int) (interrupted : Bool) : Run :=
  let run :=
    if interrupted then early statusInterrupted "" "" [⟨.info, "Shutting down..."⟩]
    else fetchRate net picks call.currency call.proxy call.fetchTimeout call.connectTimeout
  { run with
    records := Log.atLeast (levelFor call.verbose)
      (choiceRecords call.currency call.proxy call.fetchTimeout call.connectTimeout ++
        run.records) }

inductive Stop
  | refused (fault : UsageFault)
  | helped
  | crashed (crash : Crash)

def Stop.run : Stop → Run
  | .refused fault => refuse fault
  | .helped => early 0 help "" []
  | .crashed crash => ⟨.error crash, [], none⟩

def guarded (flag : Flag) : Given Binary64 → Except Stop Binary64
  | .removed => .error (.crashed (.removedValue flag))
  | .value x => if x.isNotPositive then .error (.refused (.notPositive flag)) else .ok x

def Choices.call (c : Choices) : Except Stop Call := do
  let fetchTimeout ← guarded .fetchTimeout c.fetchTimeout
  let connectTimeout ← guarded .connectTimeout c.connectTimeout
  return ⟨c.currency, c.proxy, fetchTimeout, connectTimeout, c.verbose⟩

def prepare (env : Environment) (arguments : List String) : Except Stop Call :=
  match defaults env with
  | .error fault => .error (.crashed (.failure (.misuse fault)))
  | .ok choices =>
    match read choices arguments with
    | .error fault => .error (.refused fault)
    | .ok .help => .error .helped
    | .ok (.choices c) => c.call

def proceed (net : Network) (picks : List Int) (interrupted : Bool) : Except Stop Call → Run
  | .error stop => stop.run
  | .ok call => call.run net picks interrupted

theorem guardedValue (flag : Flag) (x : Binary64) :
    guarded flag (.value x) =
      if x.isNotPositive then .error (.refused (.notPositive flag)) else .ok x := rfl

theorem performCall (net : Network) (picks : List Int) (interrupted : Bool) (c : Choices) :
    let run := perform net picks interrupted c
    { run with records := Log.atLeast (levelFor c.verbose) run.records } =
      proceed net picks interrupted c.call := by
  obtain ⟨currency, proxy, fetchTimeout, connectTimeout, verbose⟩ := c
  unfold perform Choices.call
  cases fetchTimeout with
  | removed => rfl
  | value fetchTimeout =>
    dsimp only
    rw [guardedValue]
    split
    · rfl
    · cases connectTimeout with
      | removed => rfl
      | value connectTimeout =>
        dsimp only
        rw [guardedValue]
        split <;> rfl

theorem runPrepared (env : Environment) (arguments : List String) (net : Network)
    (picks : List Int) (interrupted : Bool) :
    run env arguments net picks interrupted =
      proceed net picks interrupted (prepare env arguments) := by
  unfold run prepare
  cases defaults env with
  | error fault => rfl
  | ok choices =>
    dsimp only
    cases read choices arguments with
    | error fault => rfl
    | ok request =>
      cases request with
      | help => rfl
      | choices c => exact performCall net picks interrupted c

def geminiQuotes : Network :=
  Network.silent.set .gemini
    (.response 200 "\x7b\"bid\": \"3\", \"ask\": \"4\"\x7d".toUTF8.toList none)

namespace Environment

def unset : Environment := ⟨none, none, none, none⟩

def ownText (env : Environment) : Flag → Option String
  | .currency => env.currency
  | .proxy => env.proxy
  | .fetchTimeout => env.fetchTimeout
  | .connectTimeout => env.connectTimeout
  | .help | .verbose => none

def seconds? (env : Environment) (flag : Flag) : Option Binary64 :=
  Binary64.ofText? (Text.ofString ((nonEmpty (env.ownText flag)).getD "10.0"))

def Readable (env : Environment) : Prop := ∀ flag : Flag, flag.isTimeout → env.seconds? flag ≠ none

theorem secondsRead (env : Environment) (flag : Flag) :
    secondsOf (env.ownText flag) =
      match env.seconds? flag with
      | some x => .ok x
      | none => .error (.notNumber ((nonEmpty (env.ownText flag)).getD "10.0")) := rfl

end Environment

inductive Defaulted (env : Environment) : Except Misuse Choices → Prop
  | unreadable {text} : ¬ env.Readable → Defaulted env (.error (.notNumber text))
  | read {fetchTimeout connectTimeout} : env.Readable →
      env.seconds? .fetchTimeout = some fetchTimeout →
      env.seconds? .connectTimeout = some connectTimeout →
      Defaulted env (.ok {
        currency := .value ((nonEmpty env.currency).getD "usd")
        proxy := .value env.proxy
        fetchTimeout := .value fetchTimeout
        connectTimeout := .value connectTimeout
        verbose := false })

theorem defaulted (env : Environment) : Defaulted env (defaults env) := by
  have fetchRead := env.secondsRead .fetchTimeout
  have connectRead := env.secondsRead .connectTimeout
  dsimp only [Environment.ownText] at fetchRead connectRead
  unfold defaults
  rw [fetchRead, connectRead]
  cases fetch : env.seconds? .fetchTimeout with
  | none => exact .unreadable fun readable => readable .fetchTimeout rfl fetch
  | some fetchTimeout =>
    cases connect : env.seconds? .connectTimeout with
    | none => exact .unreadable fun readable => readable .connectTimeout rfl connect
    | some connectTimeout =>
      refine .read ?_ fetch connect
      intro flag timeout
      cases flag with
      | fetchTimeout => simp [fetch]
      | connectTimeout => simp [connect]
      | _ => cases timeout

def secondsFor? (env : Environment) (p : Plan) (flag : Flag) : Option Binary64 :=
  match p.last? flag with
  | some text => Binary64.ofText? (Text.ofString text)
  | none => env.seconds? flag

inductive Timed (env : Environment) (p : Plan) (flag : Flag) : Given Binary64 → Prop
  | removed : p.last? flag = some "--" → Timed env p flag .removed
  | value {x} : secondsFor? env p flag = some x → Timed env p flag (.value x)

theorem timed {env : Environment} {p : Plan} {c c' : Choices} (f : Field (Given Binary64))
    (accepts : f.accept = numberFor f.flag) {x : Binary64} (default : f.of c = .value x)
    (own : env.seconds? f.flag = some x) (set : setAll c p.settings = .ok c') :
    Timed env p f.flag (f.of c') := by
  have settled : f.settle (f.of c) (p.last? f.flag) = .ok (f.of c') := f.settled set
  cases last : p.last? f.flag with
  | none =>
    rw [last, default] at settled
    rw [← Except.ok.inj settled]
    refine .value ?_
    unfold secondsFor?
    rw [last, own]
  | some text =>
    rw [last] at settled
    unfold Field.settle at settled
    rw [accepts] at settled
    obtain ⟨rfl, removed⟩ | ⟨y, read, value⟩ := numberGiven settled
    · rw [removed]
      exact .removed last
    · rw [value]
      refine .value ?_
      unfold secondsFor?
      rw [last]
      exact read

inductive Prepared (env : Environment) (p : Plan) : Except Stop Call → Prop
  | unreadable {text} : ¬ env.Readable →
      Prepared env p (.error (.crashed (.failure (.misuse (.notNumber text)))))
  | refused {fault} : env.Readable → p.refusal? = some fault →
      Prepared env p (.error (.refused fault))
  | helped : env.Readable → p.refusal? = none → p.finish = .help → Prepared env p (.error .helped)
  | removed {flag} : env.Readable → p.refusal? = none → p.finish = .choices → flag.isTimeout →
      p.last? flag = some "--" → Prepared env p (.error (.crashed (.removedValue flag)))
  | notPositive {flag x} : env.Readable → p.refusal? = none → p.finish = .choices → flag.isTimeout →
      secondsFor? env p flag = some x → x.isNotPositive = true →
      Prepared env p (.error (.refused (.notPositive flag)))
  | called {call} : env.Readable → p.refusal? = none → p.finish = .choices →
      secondsFor? env p .fetchTimeout = some call.fetchTimeout →
      call.fetchTimeout.isNotPositive = false →
      secondsFor? env p .connectTimeout = some call.connectTimeout →
      call.connectTimeout.isNotPositive = false → Prepared env p (.ok call)

theorem preparedChoices {env : Environment} {p : Plan} {c : Choices} (readable : env.Readable)
    (accepted : p.refusal? = none) (finish : p.finish = .choices)
    (fetch : Timed env p .fetchTimeout c.fetchTimeout)
    (connect : Timed env p .connectTimeout c.connectTimeout) : Prepared env p c.call := by
  obtain ⟨currency, proxy, fetchTimeout, connectTimeout, verbose⟩ := c
  unfold Choices.call
  dsimp only at fetch connect ⊢
  cases fetch with
  | removed dashes => exact .removed readable accepted finish rfl dashes
  | value fetchRead =>
    rw [guardedValue]
    split
    · rename_i low
      exact .notPositive readable accepted finish rfl fetchRead low
    · rename_i fetchHigh
      cases connect with
      | removed dashes => exact .removed readable accepted finish rfl dashes
      | value connectRead =>
        rw [guardedValue]
        split
        · rename_i low
          exact .notPositive readable accepted finish rfl connectRead low
        · rename_i connectHigh
          exact .called readable accepted finish fetchRead (eq_false_of_ne_true fetchHigh)
            connectRead (eq_false_of_ne_true connectHigh)

theorem prepared (env : Environment) (arguments : List String) :
    Prepared env (.ofArguments arguments) (prepare env arguments) := by
  unfold prepare
  have environment := defaulted env
  generalize defaults env = result at environment
  cases environment with
  | unreadable unreadable => exact .unreadable unreadable
  | read readable fetch connect =>
    rename_i fetchTimeout connectTimeout
    dsimp only
    rw [Plan.readOfArguments]
    have reading := (Plan.ofArguments arguments).applied
      ⟨.value ((nonEmpty env.currency).getD "usd"), .value env.proxy, .value fetchTimeout,
        .value connectTimeout, false⟩
    generalize Plan.apply _ _ = request at reading ⊢
    cases reading with
    | refused refused => exact .refused readable refused
    | helped accepted finish => exact .helped readable accepted finish
    | chosen accepted finish set =>
      exact preparedChoices readable accepted finish
        (timed .fetchTimeout rfl rfl fetch set) (timed .connectTimeout rfl rfl connect set)

end QuorumRate.CommandLine
