import QuorumRate.CommandLine.Arguments
import QuorumRate.Session
/-! A run of the program: from arguments and environment to the exit status, the text it prints and
the records it logs. The network and the lots are given, so that a run is a function of its input.
An interrupt, if there is one, comes where the rate is about to be asked for: no session is started
and no request sent. -/
namespace QuorumRate.CommandLine

structure Environment where
  currency : Option String
  proxy : Option String
  fetchTimeout : Option String
  connectTimeout : Option String
  deriving DecidableEq, Repr

inductive Crash
  | failure (reason : Failure)
  | removedValue (flag : Flag)

def Crash.message : Crash → String
  | .failure reason => reason.message
  | .removedValue .currency => "'list' object has no attribute 'strip'"
  | .removedValue .proxy => "'list' object has no attribute 'url'"
  | .removedValue _ => "'<=' not supported between instances of 'list' and 'int'"

structure ClientRecord where
  proxy : Option String
  timeouts : List Seconds
  deriving DecidableEq, Repr

structure Ending where
  status : Nat
  output : String
  usageError : String
  clients : List ClientRecord
  requests : List String
  asked : List Nat
  deriving DecidableEq, Repr

structure Run where
  ending : Except Crash Ending
  records : List Log.Record
  left : Option Session

def statusAllFailed : Nat := 1
def statusUnsupported : Nat := 2

def statusInterrupted : Nat := 130
def statusUsage : Nat := 2

def nonEmpty (value : Option String) : Option String := value.filter fun text => !text.isEmpty

def secondsOf (value : Option String) : Except Misuse Binary64 :=
  let text := (nonEmpty value).getD "10.0"
  match Binary64.ofText? (Text.ofString text) with
  | some x => .ok x
  | none => .error (.notNumber text)

def defaults (env : Environment) : Except Misuse Choices := do
  let fetchTimeout ← secondsOf env.fetchTimeout
  let connectTimeout ← secondsOf env.connectTimeout
  return {
    currency := .value ((nonEmpty env.currency).getD "usd")
    proxy := .value env.proxy
    fetchTimeout := .value fetchTimeout
    connectTimeout := .value connectTimeout
    verbose := false }

def early (status : Nat) (output usageError : String) (records : List Log.Record) : Run :=
  ⟨.ok ⟨status, output, usageError, [], [], []⟩, records, none⟩

def refuse (fault : UsageFault) : Run :=
  early statusUsage "" (usage ++ program ++ ": error: " ++ fault.message ++ "\n") []

def choiceRecords (currency : Given String) (proxy : Given (Option String))
    (fetchTimeout connectTimeout : Binary64) : List Log.Record :=
  let currency := match currency with | .value text => text | .removed => "[]"
  let proxy := match proxy with | .value text => (nonEmpty text).getD "none" | .removed => "none"
  [⟨.debug, "Currency:          " ++ currency⟩,
    ⟨.debug, "Proxy:             " ++ proxy⟩,
    ⟨.debug, "Fetch Timeout:     " ++ fetchTimeout.toString ++ "s"⟩,
    ⟨.debug, "Connect Timeout:   " ++ connectTimeout.toString ++ "s"⟩]

def conclude (currency : String) (client : ClientRecord) (run : RateRun) (left : Session) : Run :=
  let exit (status : Nat) (output : String) (records : List Log.Record) : Run :=
    ⟨.ok ⟨status, output, "", [client], run.trace.requests, run.asked⟩,
      run.trace.records ++ records, some left⟩
  match run.result with
  | .ok (some rate) => exit 0 (rate.toString ++ "\n") []
  | .ok none =>
    exit statusUnsupported "" [⟨.error, "Currency " ++ quoted currency ++ " is not supported"⟩]
  | .error (.total failure _) =>
    exit statusAllFailed "" [⟨.error, "No rate available: " ++ failure.message⟩]
  | .error (.other failure) => ⟨.error (.failure failure), run.trace.records, some left⟩

def fetchRate (net : Network) (picks : List Int) (currency : Given String)
    (proxy : Given (Option String)) (fetchTimeout connectTimeout : Binary64) : Run :=
  match proxy with
  | .removed => ⟨.error (.removedValue .proxy), [], none⟩
  | .value proxy =>
    let settings : Settings := ⟨true, proxy, .real fetchTimeout, .real connectTimeout⟩
    match Session.start settings picks with
    | .error failure => ⟨.error (.failure failure), [], none⟩
    | .ok session =>
      let started := [settings.record]
      match currency with
      | .removed => ⟨.error (.removedValue .currency), started, some session.close⟩
      | .value currency =>
        let (rate, left) := session.getLastRate net (Text.ofString currency)
        let run := conclude currency ⟨proxy, settings.timeouts⟩ rate left
        { run with records := started ++ run.records }

def perform (net : Network) (picks : List Int) (interrupted : Bool) (c : Choices) : Run :=
  match c.fetchTimeout, c.connectTimeout with
  | .removed, _ => ⟨.error (.removedValue .fetchTimeout), [], none⟩
  | .value fetchTimeout, connectTimeout =>
    if fetchTimeout.isNotPositive then refuse (.notPositive .fetchTimeout)
    else
      match connectTimeout with
      | .removed => ⟨.error (.removedValue .connectTimeout), [], none⟩
      | .value connectTimeout =>
        if connectTimeout.isNotPositive then refuse (.notPositive .connectTimeout)
        else
          let run :=
            if interrupted then early statusInterrupted "" "" [⟨.info, "Shutting down..."⟩]
            else fetchRate net picks c.currency c.proxy fetchTimeout connectTimeout
          { run with
            records := choiceRecords c.currency c.proxy fetchTimeout connectTimeout ++ run.records }

def levelFor (verbose : Bool) : Log.Level := if verbose then .debug else .info

def run (env : Environment) (arguments : List String) (net : Network) (picks : List Int)
    (interrupted : Bool) : Run :=
  match defaults env with
  | .error fault => ⟨.error (.failure (.misuse fault)), [], none⟩
  | .ok choices =>
    match read choices arguments with
    | .error fault => refuse fault
    | .ok .help => early 0 help "" []
    | .ok (.choices c) =>
      let run := perform net picks interrupted c
      { run with records := Log.atLeast (levelFor c.verbose) run.records }

end QuorumRate.CommandLine
