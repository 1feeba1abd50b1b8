/-! Lists of values under keys, in the order in which the keys came first. -/
namespace QuorumRate.Keyed

variable {κ α β : Type} [DecidableEq κ]

def put (entries : List (κ × α)) (key : κ) (value : α) : List (κ × α) :=
  if entries.any (·.1 = key) then
    entries.map fun entry => if entry.1 = key then (key, value) else entry
  else entries ++ [(key, value)]

def distinct (entries : List (κ × α)) : List (κ × α) :=
  entries.foldl (fun found entry => put found entry.1 entry.2) []

def find? (entries : List (κ × α)) (key : κ) : Option α :=
  (entries.find? (·.1 = key)).map (·.2)

theorem putNew {entries : List (κ × α)} {key : κ} (value : α) (new : key ∉ entries.map (·.1)) :
    put entries key value = entries ++ [(key, value)] := by
  unfold put
  rw [if_neg]
  simpa [List.any_eq_true] using new

theorem putKeys {entries : List (κ × α)} {key : κ} (value : α) (old : key ∈ entries.map (·.1)) :
    (put entries key value).map (·.1) = entries.map (·.1) := by
  unfold put
  rw [if_pos (by simpa [List.any_eq_true] using old), List.map_map]
  refine List.map_congr_left fun entry _ => ?_
  by_cases same : entry.1 = key
  · simp [same]
  · simp [same]

theorem putNodup {entries : List (κ × α)} (keys : (entries.map (·.1)).Nodup) (key : κ) (value : α) :
    ((put entries key value).map (·.1)).Nodup := by
  by_cases old : key ∈ entries.map (·.1)
  · rwa [putKeys value old]
  · rw [putNew value old, List.map_append]
    refine List.nodup_append.mpr ⟨keys, by simp, ?_⟩
    intro a member b own same
    rw [List.map_singleton, List.mem_singleton] at own
    subst own same
    exact old member

theorem findNone {entries : List (κ × α)} {key : κ} :
    find? entries key = none ↔ key ∉ entries.map (·.1) := by
  unfold find?
  rw [Option.map_eq_none_iff, List.find?_eq_none, List.mem_map]
  constructor
  · rintro none ⟨entry, member, same⟩
    exact none entry member (decide_eq_true same)
  · intro none entry member same
    exact none ⟨entry, member, of_decide_eq_true same⟩

theorem findReplaced (entries : List (κ × α)) (key other : κ) (value : α) :
    find? (entries.map fun entry => if entry.1 = key then (key, value) else entry) other =
      if other = key then (find? entries key).map fun _ => value else find? entries other := by
  unfold find?
  induction entries with
  | nil => simp
  | cons first rest ih =>
    rw [List.map_cons, List.find?_cons, List.find?_cons, List.find?_cons]
    by_cases here : first.1 = key
    · by_cases same : other = key
      · simp [here, same]
      · simpa [here, same, Ne.symm same] using ih
    · by_cases same : other = key
      · subst same
        simpa [here] using ih
      · by_cases own : first.1 = other
        · simp [same, own]
        · simpa [here, same, own] using ih

theorem findPut (entries : List (κ × α)) (key other : κ) (value : α) :
    find? (put entries key value) other =
      if other = key then some value else find? entries other := by
  by_cases old : key ∈ entries.map (·.1)
  · unfold put
    rw [if_pos (by simpa [List.any_eq_true] using old), findReplaced]
    cases found : find? entries key with
    | none => exact absurd old (findNone.mp found)
    | some _ => rfl
  · rw [putNew value old]
    have none := findNone.mpr old
    unfold find? at none ⊢
    rw [List.find?_append]
    by_cases same : other = key
    · subst same
      rw [Option.map_eq_none_iff] at none
      simp [none]
    · simp [same, Ne.symm same]

theorem distinctOnto {found entries : List (κ × α)}
    (keys : ((found ++ entries).map (·.1)).Nodup) :
    entries.foldl (fun found entry => put found entry.1 entry.2) found = found ++ entries := by
  induction entries generalizing found with
  | nil => simp
  | cons entry rest ih =>
    have new : entry.1 ∉ found.map (·.1) := by
      intro member
      simp only [List.map_append, List.map_cons] at keys
      exact (List.nodup_append.mp keys).2.2 _ member _ List.mem_cons_self rfl
    rw [List.foldl_cons, putNew _ new, ih (by simpa using keys)]
    simp

theorem distinctSelf {entries : List (κ × α)} (keys : (entries.map (·.1)).Nodup) :
    distinct entries = entries := distinctOnto keys

theorem findOwn {entries : List (κ × α)} (keys : (entries.map (·.1)).Nodup) {entry : κ × α}
    (member : entry ∈ entries) : find? entries entry.1 = some entry.2 := by
  induction entries with
  | nil => cases member
  | cons first rest ih =>
    rw [List.map_cons, List.nodup_cons] at keys
    cases member with
    | head => simp [find?]
    | tail _ later =>
      have other : first.1 ≠ entry.1 := fun same => keys.1 (same ▸ List.mem_map_of_mem later)
      simpa [find?, other] using ih keys.2 later

end QuorumRate.Keyed
