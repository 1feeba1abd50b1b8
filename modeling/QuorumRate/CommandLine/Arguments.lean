import QuorumRate.Binary64.Reader
import QuorumRate.CommandLine.Flag
import QuorumRate.Text.Quoted
/-! Reading arguments. First every argument is told to be an option or a value, then the options
are taken one after another, each with its value. A long name may be cut short as long as it is
clear, a value may be attached to it with an equals sign, and short options may be run together. -/
namespace QuorumRate.CommandLine

inductive UsageFault
  | ambiguous (argument : String) (names : List String)
  | noValue (flag : Flag)
  | needlessValue (flag : Flag) (value : String)
  | badNumber (flag : Flag) (value : String)
  | unrecognized (arguments : List String)
  | notPositive (flag : Flag)
  deriving DecidableEq, Repr

def UsageFault.message : UsageFault → String
  | .ambiguous argument names =>
    "ambiguous option: " ++ argument ++ " could match " ++ String.intercalate ", " names
  | .noValue flag => "argument " ++ flag.label ++ ": expected one argument"
  | .needlessValue flag value =>
    "argument " ++ flag.label ++ ": ignored explicit argument " ++ quoted value
  | .badNumber flag value =>
    "argument " ++ flag.label ++ ": invalid float value: " ++ quoted value
  | .unrecognized arguments => "unrecognized arguments: " ++ String.intercalate " " arguments
  | .notPositive flag => flag.label ++ " must be positive"

inductive Kind
  | value
  | divider
  | option (flag : Flag) (isLong : Bool) (attached : Option String)
  | stranger
  deriving DecidableEq, Repr

def splitEquals (argument : List Char) : List Char × Option String :=
  match argument.dropWhile (· != '=') with
  | [] => (argument, none)
  | _ :: rest => (argument.takeWhile (· != '='), some (String.ofList rest))

def isDigit (c : Char) : Bool := (CodePoint.ofChar c).digit?.isSome

def isNegativeNumber : List Char → Bool
  | '-' :: body =>
    match body.dropWhile isDigit with
    | [] => !body.isEmpty
    | ['\n'] => 1 < body.length
    | '.' :: fraction =>
      !(fraction.takeWhile isDigit).isEmpty && [[], ['\n']].contains (fraction.dropWhile isDigit)
    | _ => false
  | _ => false

def candidates (argument : List Char) : List (String × Kind) :=
  match argument with
  | '-' :: '-' :: _ =>
    let (start, attached) := splitEquals argument
    (Flag.named.filter fun entry => start.isPrefixOf entry.1.toList).map fun (name, flag) =>
      (name, .option flag true attached)
  | '-' :: letter :: rest =>
    (Flag.named.filter fun entry => entry.1.toList = ['-', letter]).map fun (name, flag) =>
      (name, .option flag false (some (String.ofList rest)))
  | _ => []

def kindOfInexact (argument : String) : Except UsageFault Kind :=
  match candidates argument.toList with
  | [(_, kind)] => .ok kind
  | [] =>
    if isNegativeNumber argument.toList || argument.toList.contains ' ' then .ok .value
    else .ok .stranger
  | several => .error (.ambiguous argument (several.map (·.1)))

def kindOf (argument : String) : Except UsageFault Kind :=
  match argument.toList with
  | '-' :: second :: _ =>
    let isLong := second = '-'
    let (name, attached) := splitEquals argument.toList
    match Flag.ofName? argument, attached, Flag.ofName? (String.ofList name) with
    | some flag, _, _ => .ok (.option flag isLong none)
    | none, some text, some flag => .ok (.option flag isLong (some text))
    | none, _, _ => kindOfInexact argument
  | _ => .ok .value

def kinds : List String → Except UsageFault (List (String × Kind))
  | [] => .ok []
  | argument :: rest =>
    if argument = "--" then .ok ((argument, .divider) :: rest.map (·, .value))
    else do
      let kind ← kindOf argument
      return (argument, kind) :: (← kinds rest)

inductive Given (α : Type)
  | value (a : α)
  | removed
  deriving DecidableEq, Repr

structure Choices where
  currency : Given String
  proxy : Given (Option String)
  fetchTimeout : Given Binary64
  connectTimeout : Given Binary64
  verbose : Bool
  deriving DecidableEq, Repr

def numberFor (flag : Flag) (text : String) : Except UsageFault (Given Binary64) :=
  if text = "--" then .ok .removed
  else
    match Binary64.ofText? (Text.ofString text) with
    | some x => .ok (.value x)
    | none => .error (.badNumber flag text)

def Choices.set (c : Choices) (flag : Flag) (text : String) : Except UsageFault Choices :=
  match flag with
  | .currency => .ok { c with currency := if text = "--" then .removed else .value text }
  | .proxy => .ok { c with proxy := if text = "--" then .removed else .value (some text) }
  | .fetchTimeout => do return { c with fetchTimeout := ← numberFor flag text }
  | .connectTimeout => do return { c with connectTimeout := ← numberFor flag text }
  | .help => .ok c
  | .verbose => .ok { c with verbose := true }

def runTogether (flag : Flag) : List Char → Except UsageFault (List Flag)
  | [] => .error (.needlessValue flag "")
  | letter :: rest =>
    match Flag.ofName? (String.ofList ['-', letter]) with
    | none => .error (.needlessValue flag (String.ofList (letter :: rest)))
    | some next =>
      if rest.isEmpty then .ok [flag, next] else (runTogether next rest).map (flag :: ·)

inductive Request
  | help
  | choices (c : Choices)
  deriving DecidableEq, Repr

def Choices.setAll (c : Choices) (flags : List Flag) : Except UsageFault Request :=
  if flags.contains .help then .ok .help
  else (flags.foldlM (fun (c : Choices) flag => c.set flag "") c).map .choices

def Choices.setSwitch (c : Choices) (flag : Flag) (isLong : Bool) :
    Option String → Except UsageFault Request
  | none => c.setAll [flag]
  | some text =>
    if isLong then .error (.needlessValue flag text)
    else do c.setAll (← runTogether flag text.toList)

def take (c : Choices) (left : List String) :
    Option Flag → List (String × Kind) → Except UsageFault Request
  | none, [] => if left.isEmpty then .ok (.choices c) else .error (.unrecognized left.reverse)
  | some flag, [] => .error (.noValue flag)
  | some flag, (text, kind) :: rest =>
    if kind = .value then do take (← c.set flag text) left none rest
    else .error (.noValue flag)
  | none, (argument, kind) :: rest =>
    match kind with
    | .option flag isLong attached =>
      if flag.takesValue then
        match attached with
        | some text => do take (← c.set flag text) left none rest
        | none => take c left (some flag) rest
      else do
        match ← c.setSwitch flag isLong attached with
        | .help => .ok .help
        | .choices c => take c left none rest
    | _ => take c (argument :: left) none rest

def read (defaults : Choices) (arguments : List String) : Except UsageFault Request := do
  take defaults [] none (← kinds arguments)

end QuorumRate.CommandLine
