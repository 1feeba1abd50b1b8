import QuorumRate.Proofs.CommandLine.Setting

/-! What arguments ask for, told without any defaults: the options they set, in order, and how the
reading ends. To read arguments is to set these options one after another and then to end so. -/
namespace QuorumRate.CommandLine

inductive Finish
  | choices
  | help
  | fault (fault : UsageFault)
  deriving DecidableEq, Repr

structure Plan where
  settings : List (Flag × String)
  finish : Finish
  deriving DecidableEq, Repr

namespace Plan

def stop (fault : UsageFault) : Plan := ⟨[], .fault fault⟩

def after (settings : List (Flag × String)) (p : Plan) : Plan := ⟨settings ++ p.settings, p.finish⟩

def ofSwitches (rest : Plan) (flags : List Flag) : Plan :=
  if flags.contains .help then ⟨[], .help⟩ else rest.after (flags.map (·, ""))

def ofSwitch (rest : Plan) (flag : Flag) (isLong : Bool) : Option String → Plan
  | none => rest.ofSwitches [flag]
  | some text =>
    if isLong then stop (.needlessValue flag text)
    else
      match runTogether flag text.toList with
      | .error fault => stop fault
      | .ok flags => rest.ofSwitches flags

def ofKinds (left : List String) : Option Flag → List (String × Kind) → Plan
  | none, [] => if left.isEmpty then ⟨[], .choices⟩ else stop (.unrecognized left.reverse)
  | some flag, [] => stop (.noValue flag)
  | some flag, (text, kind) :: rest =>
    if kind = .value then (ofKinds left none rest).after [(flag, text)] else stop (.noValue flag)
  | none, (argument, kind) :: rest =>
    match kind with
    | .option flag isLong attached =>
      if flag.takesValue then
        match attached with
        | some text => (ofKinds left none rest).after [(flag, text)]
        | none => ofKinds left (some flag) rest
      else (ofKinds left none rest).ofSwitch flag isLong attached
    | _ => ofKinds (argument :: left) none rest

def faultOf? : Finish → Option UsageFault
  | .fault fault => some fault
  | _ => none

def refusal? (p : Plan) : Option UsageFault :=
  (p.settings.findSome? refusalOf?).or (faultOf? p.finish)

def last? (p : Plan) (flag : Flag) : Option String := lastOf? flag p.settings

def ofArguments (arguments : List String) : Plan :=
  match kinds arguments with
  | .error fault => stop fault
  | .ok told => ofKinds [] none told

def close (c : Choices) : Finish → Except UsageFault Request
  | .choices => .ok (.choices c)
  | .help => .ok .help
  | .fault fault => .error fault

def apply (p : Plan) (c : Choices) : Except UsageFault Request := do
  close (← setAll c p.settings) p.finish

theorem applyAfter (p : Plan) (settings : List (Flag × String)) (c : Choices) :
    (p.after settings).apply c = setAll c settings >>= p.apply := by
  unfold apply after setAll
  rw [List.foldlM_append, bind_assoc]

theorem applySwitches (p : Plan) (flags : List Flag) (c : Choices) :
    (p.ofSwitches flags).apply c = (c.setAll flags >>= fun
      | .help => .ok .help
      | .choices c => p.apply c) := by
  unfold ofSwitches Choices.setAll
  split
  · rfl
  · rw [applyAfter]
    unfold setAll
    rw [List.foldlM_map]
    cases flags.foldlM (fun (c : Choices) flag => c.set flag "") c <;> rfl

theorem applySwitch (p : Plan) (flag : Flag) (isLong : Bool) (attached : Option String)
    (c : Choices) :
    (p.ofSwitch flag isLong attached).apply c = (c.setSwitch flag isLong attached >>= fun
      | .help => .ok .help
      | .choices c => p.apply c) := by
  cases attached with
  | none => exact p.applySwitches [flag] c
  | some text =>
    unfold ofSwitch Choices.setSwitch
    dsimp only
    split
    · rfl
    · cases runTogether flag text.toList with
      | error fault => rfl
      | ok flags => exact p.applySwitches flags c

theorem applySetting (p : Plan) (flag : Flag) (text : String) (c : Choices) :
    (p.after [(flag, text)]).apply c = c.set flag text >>= p.apply := by
  rw [applyAfter]
  exact congrArg (· >>= p.apply) (bind_pure _)

theorem takeOfKinds (c : Choices) (left : List String) (waiting : Option Flag)
    (told : List (String × Kind)) :
    take c left waiting told = (ofKinds left waiting told).apply c := by
  -- An option that waits takes the next argument, so the hypothesis is for any that waits
  induction told generalizing c left waiting with
  | nil =>
    cases waiting with
    | some flag => rfl
    | none =>
      unfold take ofKinds
      split <;> rfl
  | cons first rest ih =>
    obtain ⟨argument, kind⟩ := first
    have resumed : (fun c => take c left none rest) = (ofKinds left none rest).apply :=
      funext fun c => ih c left none
    cases waiting with
    | some flag =>
      unfold take ofKinds
      split
      · rw [applySetting, resumed]
      · rfl
    | none =>
      cases kind with
      | option flag isLong attached =>
        unfold take ofKinds
        dsimp only
        split
        · cases attached with
          | some text => rw [applySetting, ← resumed]
          | none => exact ih c left (some flag)
        · have switched := (ofKinds left none rest).applySwitch flag isLong attached c
          rw [← resumed] at switched
          exact switched.symm
      | _ => exact ih c (argument :: left) none

theorem readOfArguments (c : Choices) (arguments : List String) :
    read c arguments = (ofArguments arguments).apply c := by
  unfold read ofArguments
  cases kinds arguments with
  | error fault => rfl
  | ok told => exact takeOfKinds c [] none told

example : ofArguments ["--fetch=5", "-v", "--proxy", "--"] =
    ⟨[(.fetchTimeout, "5"), (.verbose, "")], .fault (.noValue .proxy)⟩ := by decide

inductive Applied (p : Plan) (c : Choices) : Except UsageFault Request → Prop
  | refused {fault} : p.refusal? = some fault → Applied p c (.error fault)
  | helped : p.refusal? = none → p.finish = .help → Applied p c (.ok .help)
  | chosen {c'} : p.refusal? = none → p.finish = .choices → setAll c p.settings = .ok c' →
      Applied p c (.ok (.choices c'))

theorem applied (p : Plan) (c : Choices) : Applied p c (p.apply c) := by
  have judged := setAllJudged c p.settings
  unfold apply
  cases refused : p.settings.findSome? refusalOf? with
  | some fault =>
    rw [refused] at judged
    generalize setAll c p.settings = result at judged
    cases judged
    exact .refused (by simp [refusal?, refused])
  | none =>
    have rest : p.refusal? = faultOf? p.finish := by simp [refusal?, refused]
    rw [refused] at judged
    cases set : setAll c p.settings with
    | error fault =>
      rw [set] at judged
      cases judged
    | ok c' =>
      change Applied p c (close c' p.finish)
      cases finish : p.finish with
      | choices => exact .chosen (by rw [rest, finish]; rfl) finish set
      | help => exact .helped (by rw [rest, finish]; rfl) finish
      | fault fault => exact .refused (by rw [rest, finish]; rfl)

end Plan
end QuorumRate.CommandLine
