import QuorumRate.CommandLine.Arguments

/-! Setting options one after another. A text is refused or taken whatever was chosen before it, and
a field that one option alone sets ends with the last text of that option, or else as it began. -/
namespace QuorumRate.CommandLine

def Flag.isTimeout : Flag → Bool
  | .fetchTimeout | .connectTimeout => true
  | _ => false

def Illegible (text : String) : Prop :=
  text ≠ "--" ∧ Binary64.ofText? (Text.ofString text) = none
instance (text) : Decidable (Illegible text) := by
  unfold Illegible
  infer_instance

theorem numberCases (flag : Flag) (text : String) :
    (Illegible text ∧ numberFor flag text = .error (.badNumber flag text)) ∨
      (¬ Illegible text ∧ ∃ given, numberFor flag text = .ok given) := by
  unfold numberFor Illegible
  by_cases dashes : text = "--"
  · exact .inr ⟨fun illegible => illegible.1 dashes, .removed, if_pos dashes⟩
  · rw [if_neg dashes]
    cases number : Binary64.ofText? (Text.ofString text) with
    | none => exact .inl ⟨⟨dashes, rfl⟩, rfl⟩
    | some x => exact .inr ⟨nofun, .value x, rfl⟩

theorem numberGiven {flag : Flag} {text : String} {given : Given Binary64}
    (number : numberFor flag text = .ok given) :
    (text = "--" ∧ given = .removed) ∨
      ∃ x, Binary64.ofText? (Text.ofString text) = some x ∧ given = .value x := by
  unfold numberFor at number
  split at number
  · rename_i dashes
    cases number
    exact .inl ⟨dashes, rfl⟩
  · split at number
    · rename_i x read
      cases number
      exact .inr ⟨x, read, rfl⟩
    · cases number

inductive Changed (c : Choices) : Flag → String → Except UsageFault Choices → Prop
  | help {text} : Changed c .help text (.ok c)
  | currency {text} : Changed c .currency text
      (.ok { c with currency := if text = "--" then .removed else .value text })
  | proxy {text} : Changed c .proxy text
      (.ok { c with proxy := if text = "--" then .removed else .value (some text) })
  | fetchTimeout {text given} : ¬ Illegible text → numberFor .fetchTimeout text = .ok given →
      Changed c .fetchTimeout text (.ok { c with fetchTimeout := given })
  | connectTimeout {text given} : ¬ Illegible text → numberFor .connectTimeout text = .ok given →
      Changed c .connectTimeout text (.ok { c with connectTimeout := given })
  | verbose {text} : Changed c .verbose text (.ok { c with verbose := true })
  | illegible {flag text} : flag.isTimeout → Illegible text →
      Changed c flag text (.error (.badNumber flag text))

theorem changed (c : Choices) (flag : Flag) (text : String) :
    Changed c flag text (c.set flag text) := by
  cases flag with
  | help => exact .help
  | currency => exact .currency
  | proxy => exact .proxy
  | verbose => exact .verbose
  | fetchTimeout =>
    obtain ⟨illegible, number⟩ | ⟨legible, given, number⟩ := numberCases .fetchTimeout text
    · rw [Choices.set, number]
      exact .illegible rfl illegible
    · rw [Choices.set, number]
      exact .fetchTimeout legible number
  | connectTimeout =>
    obtain ⟨illegible, number⟩ | ⟨legible, given, number⟩ := numberCases .connectTimeout text
    · rw [Choices.set, number]
      exact .illegible rfl illegible
    · rw [Choices.set, number]
      exact .connectTimeout legible number

theorem changedOk {c c' : Choices} {flag : Flag} {text : String}
    (set : c.set flag text = .ok c') : Changed c flag text (.ok c') := set ▸ changed c flag text

def refusalOf? : Flag × String → Option UsageFault
  | (flag, text) =>
    if flag.isTimeout ∧ Illegible text then some (.badNumber flag text) else none

inductive Judged : Option UsageFault → Except UsageFault Choices → Prop
  | refused {fault} : Judged (some fault) (.error fault)
  | accepted {c} : Judged none (.ok c)

theorem setJudged (c : Choices) (setting : Flag × String) :
    Judged (refusalOf? setting) (c.set setting.1 setting.2) := by
  obtain ⟨flag, text⟩ := setting
  have outcome := changed c flag text
  dsimp only [refusalOf?]
  generalize c.set flag text = result at outcome
  cases outcome with
  | illegible timeout illegible =>
    rw [if_pos ⟨timeout, illegible⟩]
    exact .refused
  | fetchTimeout legible number =>
    rw [if_neg fun spoilt => legible spoilt.2]
    exact .accepted
  | connectTimeout legible number =>
    rw [if_neg fun spoilt => legible spoilt.2]
    exact .accepted
  | _ => exact .accepted

def setAll (c : Choices) (settings : List (Flag × String)) : Except UsageFault Choices :=
  settings.foldlM (fun (c : Choices) setting => c.set setting.1 setting.2) c

theorem setAllJudged (c : Choices) (settings : List (Flag × String)) :
    Judged (settings.findSome? refusalOf?) (setAll c settings) := by
  induction settings generalizing c with
  | nil => exact .accepted
  | cons first rest ih =>
    have step := setJudged c first
    unfold setAll
    rw [List.findSome?_cons, List.foldlM_cons]
    generalize refusalOf? first = refusal at step ⊢
    generalize c.set first.1 first.2 = result at step ⊢
    cases step with
    | refused => exact .refused
    | accepted => exact ih _

def lastOf? (flag : Flag) (settings : List (Flag × String)) : Option String :=
  (settings.filterMap fun setting => if setting.1 = flag then some setting.2 else none).getLast?

theorem lastOfCons (flag own : Flag) (text : String) (rest : List (Flag × String)) :
    lastOf? flag ((own, text) :: rest) =
      (lastOf? flag rest).or (if own = flag then some text else none) := by
  unfold lastOf?
  by_cases same : own = flag
  · simp only [List.filterMap_cons, if_pos same, List.getLast?_cons]
    cases (List.filterMap _ rest).getLast? <;> rfl
  · simp only [List.filterMap_cons, if_neg same, Option.or_none]

structure Field (α : Type) where
  flag : Flag
  of : Choices → α
  accept : String → Except UsageFault α
  sets : ∀ {c c' : Choices} {text}, c.set flag text = .ok c' → accept text = .ok (of c')
  keeps : ∀ {c c' : Choices} {other text}, c.set other text = .ok c' → other ≠ flag → of c' = of c

namespace Field
variable {α : Type}

def settle (f : Field α) (default : α) : Option String → Except UsageFault α
  | none => .ok default
  | some text => f.accept text

theorem settled (f : Field α) {settings : List (Flag × String)} {c c' : Choices}
    (set : setAll c settings = .ok c') :
    f.settle (f.of c) (lastOf? f.flag settings) = .ok (f.of c') := by
  induction settings generalizing c with
  | nil =>
    cases set
    rfl
  | cons first rest ih =>
    obtain ⟨own, text⟩ := first
    unfold setAll at set
    rw [List.foldlM_cons] at set
    cases step : c.set own text with
    | error fault =>
      rw [step] at set
      cases set
    | ok next =>
      rw [step] at set
      have later := ih set
      rw [lastOfCons]
      cases last : lastOf? f.flag rest with
      | some text =>
        rw [last] at later
        exact later
      | none =>
        rw [last] at later
        rw [Option.none_or, ← later]
        split
        · rename_i same
          subst same
          exact f.sets step
        · rename_i other
          exact congrArg Except.ok (f.keeps step other).symm

def fetchTimeout : Field (Given Binary64) where
  flag := .fetchTimeout
  of := Choices.fetchTimeout
  accept := numberFor .fetchTimeout
  sets set := by
    cases changedOk set with
    | fetchTimeout _ number => exact number
  keeps set other := by
    cases changedOk set with
    | fetchTimeout => exact absurd rfl other
    | _ => rfl

def connectTimeout : Field (Given Binary64) where
  flag := .connectTimeout
  of := Choices.connectTimeout
  accept := numberFor .connectTimeout
  sets set := by
    cases changedOk set with
    | connectTimeout _ number => exact number
  keeps set other := by
    cases changedOk set with
    | connectTimeout => exact absurd rfl other
    | _ => rfl

end Field
end QuorumRate.CommandLine
