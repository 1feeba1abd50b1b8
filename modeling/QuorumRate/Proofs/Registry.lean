import QuorumRate.Proofs.Session.Lifecycle
import QuorumRate.Registry

/-! A registry after any calls that register a class. It stands for the last of the registrations of
each name that has a text, those of the venues being the first. A session has its fetchers if there
is a client for it and every class that stands for a venue can be called on that client. -/
namespace QuorumRate

namespace FetcherClass

def last? (calls : List FetcherClass) (name : String) : Option FetcherClass :=
  (calls.filter (·.name = name)).getLast?

theorem lastNext (calls : List FetcherClass) (cls : FetcherClass) (name : String) :
    last? (calls ++ [cls]) name = if name = cls.name then some cls else last? calls name := by
  unfold last?
  rw [List.filter_append]
  by_cases own : name = cls.name
  · simp [own]
  · simp [own, Ne.symm own]

theorem lastNone {calls : List FetcherClass} {name : String} :
    last? calls name = none ↔ ∀ cls ∈ calls, cls.name ≠ name := by
  simp [last?]

end FetcherClass

namespace Registry
open FetcherClass

def empty : Registry := ⟨[]⟩

def enter (r : Registry) (cls : FetcherClass) : Registry :=
  match r.enroll cls with
  | .ok later => later
  | .error _ => r

def after (r : Registry) (calls : List FetcherClass) : Registry := calls.foldl enter r

theorem enrollUnnamed (r : Registry) {cls : FetcherClass} (unnamed : cls.name = "") :
    r.enroll cls = .error (.unnamedVenue cls.title) := by
  unfold enroll
  rw [if_pos (by rw [unnamed]; rfl)]

theorem enrollNamed (r : Registry) {cls : FetcherClass} (named : cls.name ≠ "") :
    r.enroll cls = .ok ⟨Keyed.put r.classes cls.name cls⟩ := by
  unfold enroll
  rw [if_neg (by simpa using named)]

theorem enterUnnamed (r : Registry) {cls : FetcherClass} (unnamed : cls.name = "") :
    r.enter cls = r := by
  rw [enter, enrollUnnamed r unnamed]

theorem enterNamed (r : Registry) {cls : FetcherClass} (named : cls.name ≠ "") :
    r.enter cls = ⟨Keyed.put r.classes cls.name cls⟩ := by
  rw [enter, enrollNamed r named]

structure Keeps (calls : List FetcherClass) (r : Registry) : Prop where
  keys : (r.classes.map (·.1)).Nodup
  unnamed : Keyed.find? r.classes "" = none
  named : ∀ name, name ≠ "" → Keyed.find? r.classes name = last? calls name

theorem Keeps.enter {calls : List FetcherClass} {r : Registry} (keeps : Keeps calls r)
    (cls : FetcherClass) : Keeps (calls ++ [cls]) (r.enter cls) := by
  by_cases named : cls.name = ""
  · rw [enterUnnamed r named]
    refine { keeps with named := fun name own => ?_ }
    rw [lastNext, if_neg (named ▸ own), keeps.named name own]
  · rw [enterNamed r named]
    refine ⟨Keyed.putNodup keeps.keys _ _, ?_, fun name own => ?_⟩
    · rw [Keyed.findPut, if_neg (Ne.symm named), keeps.unnamed]
    · rw [Keyed.findPut, lastNext, keeps.named name own]

theorem Keeps.after {past : List FetcherClass} {r : Registry} (keeps : Keeps past r)
    (calls : List FetcherClass) : Keeps (past ++ calls) (r.after calls) := by
  induction calls generalizing past r with
  | nil => simpa [Registry.after] using keeps
  | cons cls rest ih =>
    have later := ih (keeps.enter cls)
    rwa [List.append_assoc, List.singleton_append] at later

theorem memAvailable (r : Registry) (name : String) :
    name ∈ r.available ↔ Keyed.find? r.classes name ≠ none := by
  rw [Ne, Keyed.findNone, Decidable.not_not, available, List.mem_mergeSort]

theorem fetcherFound {r : Registry} {name : String} {cls : FetcherClass}
    (found : Keyed.find? r.classes name = some cls) (client : Client) :
    r.fetcher client name = cls.make client := by
  unfold fetcher find
  rw [found]
  rfl

section
variable {calls : List FetcherClass} {r : Registry} {name : String} (keeps : Keeps calls r)
include keeps

theorem Keeps.listed : name ∈ r.available ↔ name ≠ "" ∧ ∃ cls ∈ calls, cls.name = name := by
  rw [memAvailable]
  by_cases named : name = ""
  · subst named
    simp [keeps.unnamed]
  · rw [keeps.named name named, Ne, lastNone]
    simp [named]

theorem Keeps.built (own : name ∈ r.available) :
    ∃ cls, last? calls name = some cls ∧ ∀ client, r.fetcher client name = cls.make client := by
  obtain ⟨cls, found⟩ := Option.ne_none_iff_exists'.mp ((memAvailable r name).mp own)
  exact ⟨cls, keeps.named name (keeps.listed.mp own).1 ▸ found, fetcherFound found⟩

end

section
variable {r : Registry} {client : Client}

variable {settings : Settings} {picks : List Int}

end

theorem makeOk {cls : FetcherClass} {client : Client} :
    (∃ fetcher, cls.make client = .ok fetcher) ↔ cls.check client = .ok () := by
  unfold FetcherClass.make
  cases cls.check client with
  | error failure => simp [Except.map]
  | ok _ => simp [Except.map]

end Registry
end QuorumRate
