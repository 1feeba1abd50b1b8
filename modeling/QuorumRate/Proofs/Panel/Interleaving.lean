import Mathlib.Data.List.Forall2
import Mathlib.Data.List.Perm.Basic
import QuorumRate.Proofs.Attempt

/-! A panel asked event by event: each entrant is called, and some time later it finishes, with
events of the others in between in any order. The answer of each is kept at its own place, and the
panel comes to what `join` says of the order in which its entrants finished. -/
namespace QuorumRate.Panel

inductive Event
  | call (place : Nat)
  | finish (place : Nat)
  deriving DecidableEq, Repr

inductive Stage
  | created
  | called
  | finished (outcome : Option Outcome)

def Stage.outcome? : Stage → Option Outcome
  | .finished outcome => outcome
  | _ => none

structure Progress where
  stages : List Stage
  order : List Nat
  escaped : Option Failure
  trace : Trace

def start (entrants : List Entrant) : Progress :=
  ⟨entrants.map fun _ => .created, [], none, .empty⟩

def task? (entrants : List Entrant) (place : Nat) : Option Entrant := do
  let (name, _) ← entrants[place]?
  return (name, ← Keyed.find? entrants name)

def advance (pair : Pair) (entrants : List Entrant) (s : Progress) : Event → Option Progress
  | .call place =>
    match s.stages[place]? with
    | some .created => some { s with stages := s.stages.set place .called }
    | _ => none
  | .finish place =>
    match s.stages[place]?, task? entrants place with
    | some .called, some entrant =>
      some ⟨s.stages.set place (.finished (outcome? entrant.2)), s.order ++ [place],
        s.escaped.or (escape? entrant.2), s.trace ++ traceOf pair entrant⟩
    | _, _ => none

def run (pair : Pair) (entrants : List Entrant) : Progress → List Event → Option Progress
  | s, [] => some s
  | s, event :: rest => (advance pair entrants s event).bind (run pair entrants · rest)

namespace Progress

def finishing (entrants : List Entrant) (s : Progress) : List Entrant :=
  s.order.filterMap (entrants[·]?)

def IsComplete (s : Progress) : Prop := ∀ stage ∈ s.stages, ∃ outcome, stage = .finished outcome

/-- What the caller gets: the first failure to escape as soon as there is one, else the answers of
all places under their names, once there are all. -/
def returned? (entrants : List Entrant) (s : Progress) :
    Option (Except Failure (List (String × Outcome))) :=
  match s.escaped with
  | some failure => some (.error failure)
  | none =>
    (s.stages.mapM Stage.outcome?).map fun answers =>
      .ok (Keyed.distinct ((entrants.map (·.1)).zip answers))

end Progress

section
variable {pair : Pair} {entrants : List Entrant} {events : List Event} {s s' : Progress}

theorem taskOwn (names : (entrants.map (·.1)).Nodup) (place : Nat) :
    task? entrants place = entrants[place]? := by
  unfold task?
  cases found : entrants[place]? with
  | none => rfl
  | some entrant => simp [Keyed.findOwn names (List.mem_of_getElem? found)]

theorem advanceCall {place : Nat} :
    advance pair entrants s (.call place) = some s' ↔
      s.stages[place]? = some .created ∧ s' = { s with stages := s.stages.set place .called } := by
  dsimp only [advance]
  split
  · rename_i found
    simp [found, eq_comm]
  · rename_i other
    exact ⟨nofun, fun h => absurd h.1 other⟩

theorem advanceFinish (names : (entrants.map (·.1)).Nodup) {place : Nat} :
    advance pair entrants s (.finish place) = some s' ↔
      s.stages[place]? = some .called ∧ ∃ entrant, entrants[place]? = some entrant ∧
        s' = ⟨s.stages.set place (.finished (outcome? entrant.2)), s.order ++ [place],
          s.escaped.or (escape? entrant.2), s.trace ++ traceOf pair entrant⟩ := by
  dsimp only [advance]
  rw [taskOwn names]
  split
  · rename_i entrant found present
    simp [found, present, eq_comm]
  · rename_i other
    refine ⟨nofun, ?_⟩
    rintro ⟨found, entrant, present, _⟩
    exact absurd present (other entrant found)

/-! What a run has come to is told by its events. -/

def finishes (events : List Event) : List Nat :=
  events.filterMap fun
    | .call _ => none
    | .finish place => some place

theorem countFinishes (events : List Event) (place : Nat) :
    (finishes events).count place = events.count (.finish place) := by
  induction events with
  | nil => rfl
  | cons event rest ih =>
    unfold finishes at ih ⊢
    cases event <;> simp [List.count_cons, ih]

def Stands (entrants : List Entrant) (events : List Event) (place : Nat) : Stage → Prop
  | .created => events.count (.call place) = 0 ∧ events.count (.finish place) = 0
  | .called => events.count (.call place) = 1 ∧ events.count (.finish place) = 0
  | .finished outcome => events.count (.call place) = 1 ∧ events.count (.finish place) = 1 ∧
      ∃ entrant, entrants[place]? = some entrant ∧ outcome = outcome? entrant.2

structure Reached (pair : Pair) (entrants : List Entrant) (events : List Event) (s : Progress) :
    Prop where
  size : s.stages.length = entrants.length
  stands : ∀ place stage, s.stages[place]? = some stage → Stands entrants events place stage
  order : s.order = finishes events
  within : ∀ place ∈ s.order, place < entrants.length
  escaped : s.escaped = (s.finishing entrants).findSome? fun entrant => escape? entrant.2
  trace : s.trace = .concat ((s.finishing entrants).map (traceOf pair))

theorem startReached : Reached pair entrants [] (start entrants) where
  size := by simp [start]
  stands := by
    intro place stage found
    simp only [start, List.getElem?_map, Option.map_eq_some_iff] at found
    obtain ⟨_, _, rfl⟩ := found
    exact ⟨rfl, rfl⟩
  order := rfl
  within := nofun
  escaped := rfl
  trace := rfl

theorem setStage {stages : List Stage} {place other : Nat} {stage new : Stage}
    (found : (stages.set place new)[other]? = some stage) :
    place = other ∧ stage = new ∨ place ≠ other ∧ stages[other]? = some stage := by
  rw [List.getElem?_set] at found
  split at found
  · rename_i same
    split at found
    · cases found
      exact .inl ⟨same, rfl⟩
    · cases found
  · rename_i different
    exact .inr ⟨different, found⟩

theorem standsElsewhere {event : Event} {other : Nat} {stage : Stage}
    (call : event ≠ .call other) (finish : event ≠ .finish other)
    (stands : Stands entrants events other stage) :
    Stands entrants (events ++ [event]) other stage := by
  cases stage <;> simpa [Stands, List.count_cons, call, finish] using stands

theorem callReached (reached : Reached pair entrants events s) {place : Nat}
    (found : s.stages[place]? = some .created) :
    Reached pair entrants (events ++ [.call place])
      { s with stages := s.stages.set place .called } where
  size := by simpa using reached.size
  stands := by
    intro other stage after
    rcases setStage after with ⟨rfl, rfl⟩ | ⟨different, before⟩
    · obtain ⟨calls, finishes⟩ := reached.stands place _ found
      simp [Stands, calls, finishes]
    · exact standsElsewhere (by simpa using different) nofun (reached.stands other stage before)
  order := by simpa [finishes] using reached.order
  within := reached.within
  escaped := reached.escaped
  trace := reached.trace

theorem finishReached (reached : Reached pair entrants events s) {place : Nat} {entrant : Entrant}
    (found : s.stages[place]? = some .called) (present : entrants[place]? = some entrant) :
    Reached pair entrants (events ++ [.finish place])
      ⟨s.stages.set place (.finished (outcome? entrant.2)), s.order ++ [place],
        s.escaped.or (escape? entrant.2), s.trace ++ traceOf pair entrant⟩ where
  size := by simpa using reached.size
  stands := by
    intro other stage after
    rcases setStage after with ⟨rfl, rfl⟩ | ⟨different, before⟩
    · obtain ⟨calls, finishes⟩ := reached.stands place _ found
      simp [Stands, calls, finishes, present]
    · exact standsElsewhere nofun (by simpa using different) (reached.stands other stage before)
  order := by simp [finishes, reached.order]
  within := by
    intro other member
    rcases List.mem_append.mp member with earlier | last
    · exact reached.within other earlier
    · rw [List.mem_singleton.mp last]
      exact (List.getElem?_eq_some_iff.mp present).1
  escaped := by
    simp [Progress.finishing, present, List.findSome?_append, reached.escaped]
  trace := by
    simp [Progress.finishing, present, Trace.concatSnoc, reached.trace]

theorem stepReached (names : (entrants.map (·.1)).Nodup) {event : Event}
    (reached : Reached pair entrants events s)
    (step : advance pair entrants s event = some s') :
    Reached pair entrants (events ++ [event]) s' := by
  cases event with
  | call place =>
    obtain ⟨found, rfl⟩ := advanceCall.mp step
    exact callReached reached found
  | finish place =>
    obtain ⟨found, entrant, present, rfl⟩ := (advanceFinish names).mp step
    exact finishReached reached found present

theorem runReached (names : (entrants.map (·.1)).Nodup) {later : List Event}
    (reached : Reached pair entrants events s) (ran : run pair entrants s later = some s') :
    Reached pair entrants (events ++ later) s' := by
  induction later generalizing events s with
  | nil =>
    cases ran
    simpa using reached
  | cons event rest ih =>
    obtain ⟨next, step, onward⟩ := Option.bind_eq_some_iff.mp ran
    simpa using ih (stepReached names reached step) onward

theorem runAppend (s : Progress) (first second : List Event) :
    run pair entrants s (first ++ second) =
      (run pair entrants s first).bind (run pair entrants · second) := by
  induction first generalizing s with
  | nil => rfl
  | cons event rest ih =>
    simp only [List.cons_append, run, Option.bind_assoc]
    exact congrArg _ (funext ih)

/-! A run in which all have finished. -/

theorem completeStages (reached : Reached pair entrants events s) (complete : s.IsComplete) :
    s.stages = entrants.map fun entrant => .finished (outcome? entrant.2) := by
  refine List.ext_getElem? fun place => ?_
  rw [List.getElem?_map]
  cases found : s.stages[place]? with
  | none =>
    rw [List.getElem?_eq_none_iff, reached.size] at found
    rw [List.getElem?_eq_none found]
    rfl
  | some stage =>
    obtain ⟨outcome, rfl⟩ := complete stage (List.mem_of_getElem? found)
    obtain ⟨_, _, entrant, present, rfl⟩ := reached.stands place _ found
    rw [present]
    rfl

theorem completeOnce (reached : Reached pair entrants events s) (complete : s.IsComplete)
    {place : Nat} (inside : place < entrants.length) :
    events.count (.call place) = 1 ∧ events.count (.finish place) = 1 := by
  rw [← reached.size] at inside
  have found := List.getElem?_eq_getElem inside
  obtain ⟨outcome, done⟩ := complete _ (List.getElem_mem inside)
  rw [done] at found
  obtain ⟨called, finished, _⟩ := reached.stands place _ found
  exact ⟨called, finished⟩

theorem onceComplete (reached : Reached pair entrants events s)
    (once : ∀ place < entrants.length, events.count (.finish place) = 1) : s.IsComplete := by
  intro stage member
  obtain ⟨place, found⟩ := List.mem_iff_getElem?.mp member
  have inside := (List.getElem?_eq_some_iff.mp found).1
  have finished := once place (reached.size ▸ inside)
  have stands := reached.stands place stage found
  cases stage with
  | finished outcome => exact ⟨outcome, rfl⟩
  | _ => exact absurd (stands.2.symm.trans finished) Nat.zero_ne_one

theorem filterMapRange {α : Type} (items : List α) :
    (List.range items.length).filterMap (items[·]?) = items := by
  induction items with
  | nil => rfl
  | cons first rest ih =>
    rw [List.length_cons, List.range_succ_eq_map]
    simpa [List.filterMap_map, Function.comp_def] using ih

theorem completePerm (reached : Reached pair entrants events s) (complete : s.IsComplete) :
    (s.finishing entrants).Perm entrants := by
  have counted (place : Nat) : s.order.count place = events.count (.finish place) := by
    rw [reached.order, countFinishes]
  have places : s.order.Perm (List.range entrants.length) := by
    rw [List.perm_iff_count]
    intro place
    rw [List.nodup_range.count]
    by_cases inside : place < entrants.length
    · rw [counted, (completeOnce reached complete inside).2, if_pos (List.mem_range.mpr inside)]
    · rw [List.count_eq_zero.mpr fun member => inside (reached.within place member),
        if_neg fun member => inside (List.mem_range.mp member)]
  calc
    (s.finishing entrants).Perm ((List.range entrants.length).filterMap (entrants[·]?)) :=
      places.filterMap _
    _ = entrants := filterMapRange entrants

/-! Every order can come about. -/

def Ready (entrants : List Entrant) (events : List Event) : Event → Prop
  | .call place => place < entrants.length ∧ events.count (.call place) = 0
  | .finish place => place < entrants.length ∧ events.count (.call place) = 1 ∧
      events.count (.finish place) = 0

theorem readyAdvances (names : (entrants.map (·.1)).Nodup)
    (reached : Reached pair entrants events s) {event : Event}
    (ready : Ready entrants events event) : ∃ s', advance pair entrants s event = some s' := by
  have stageAt {place : Nat} (inside : place < entrants.length) :
      ∃ stage, s.stages[place]? = some stage :=
    ⟨_, List.getElem?_eq_getElem (reached.size ▸ inside)⟩
  cases event with
  | call place =>
    obtain ⟨inside, fresh⟩ := ready
    obtain ⟨stage, found⟩ := stageAt inside
    have stands := reached.stands place stage found
    cases stage with
    | created => exact ⟨_, advanceCall.mpr ⟨found, rfl⟩⟩
    | called => exact absurd (fresh.symm.trans stands.1) (by decide)
    | finished outcome => exact absurd (fresh.symm.trans stands.1) (by decide)
  | finish place =>
    obtain ⟨inside, called, pending⟩ := ready
    obtain ⟨stage, found⟩ := stageAt inside
    have stands := reached.stands place stage found
    cases stage with
    | created => exact absurd (called.symm.trans stands.1) (by decide)
    | called =>
      exact ⟨_, (advanceFinish names).mpr ⟨found, _, List.getElem?_eq_getElem inside, rfl⟩⟩
    | finished outcome => exact absurd (pending.symm.trans stands.2.1) (by decide)

theorem readyRuns (names : (entrants.map (·.1)).Nodup) {kind : Nat → Event}
    (apart : ∀ {events place other}, place ≠ other → Ready entrants events (kind other) →
      Ready entrants (events ++ [kind place]) (kind other))
    (reached : Reached pair entrants events s) {places : List Nat} (once : places.Nodup)
    (ready : ∀ place ∈ places, Ready entrants events (kind place)) :
    ∃ s', run pair entrants s (places.map kind) = some s' := by
  induction places generalizing events s with
  | nil => exact ⟨s, rfl⟩
  | cons place rest ih =>
    rw [List.nodup_cons] at once
    obtain ⟨next, step⟩ := readyAdvances names reached (ready place List.mem_cons_self)
    obtain ⟨last, onward⟩ := ih (stepReached names reached step) once.2 fun other member =>
      apart (fun same => once.1 (same ▸ member)) (ready other (List.mem_cons_of_mem _ member))
    exact ⟨last, by rw [List.map_cons, run, step]; exact onward⟩

theorem readyCall {place other : Nat} (different : place ≠ other)
    (ready : Ready entrants events (.call other)) :
    Ready entrants (events ++ [.call place]) (.call other) := by
  simpa [Ready, List.count_cons, different] using ready

theorem readyFinish {place other : Nat} (different : place ≠ other)
    (ready : Ready entrants events (.finish other)) :
    Ready entrants (events ++ [.finish place]) (.finish other) := by
  simpa [Ready, List.count_cons, different] using ready

theorem placesOf {order : List Entrant} (perm : order.Perm entrants) :
    ∃ places : List Nat, places.Perm (List.range entrants.length) ∧
      places.filterMap (entrants[·]?) = order := by
  have own : List.Forall₂ (fun entrant place => entrants[place]? = some entrant) entrants
      (List.range entrants.length) := by
    rw [List.forall₂_iff_get]
    refine ⟨by simp, fun place inside _ => by simp⟩
  obtain ⟨places, each, range⟩ := List.perm_comp_forall₂ perm own
  refine ⟨places, range, ?_⟩
  clear range own perm
  induction each with
  | nil => rfl
  | cons first _ ih => rw [List.filterMap_cons, first, ih]

theorem countCalls (places : List Nat) (place : Nat) :
    (places.map Event.call).count (.call place) = places.count place := by
  induction places with
  | nil => rfl
  | cons first rest ih => simp [List.count_cons, ih]

theorem orderRuns (names : (entrants.map (·.1)).Nodup) {order : List Entrant}
    (perm : order.Perm entrants) :
    ∃ events s, run pair entrants (start entrants) events = some s ∧ s.IsComplete ∧
      s.finishing entrants = order := by
  -- All are called in the wanted order, and finish in it once every call is made.
  obtain ⟨places, range, finishers⟩ := placesOf perm
  have once : places.Nodup := range.nodup_iff.mpr List.nodup_range
  have inside {place} : place ∈ places ↔ place < entrants.length :=
    range.mem_iff.trans List.mem_range
  have started : Reached pair entrants [] (start entrants) := startReached
  obtain ⟨called, calls⟩ := readyRuns names readyCall started once
    fun place member => ⟨inside.mp member, rfl⟩
  have begun := runReached names started calls
  obtain ⟨s, ends⟩ := readyRuns names readyFinish begun once fun place member => by
    refine ⟨inside.mp member, ?_, ?_⟩
    · simp [countCalls, once.count, member]
    · simp [List.count_eq_zero]
  have reached := runReached names begun ends
  have order : s.order = places := by
    rw [reached.order]
    simp [finishes, List.filterMap_map]
  have complete : s.IsComplete := onceComplete reached fun place within => by
    rw [← countFinishes, ← reached.order, order, once.count, if_pos (inside.mpr within)]
  exact ⟨_, s, by rw [runAppend, calls]; exact ends, complete, by rw [← finishers, ← order]; rfl⟩

/-! What the panel gives to its caller. -/

def Contributes (entrant : Entrant) (entry : String × Outcome) : Prop :=
  entry.1 = entrant.1 ∧ entrant.2.result = entry.2.mapError .venue

def warning? (pair : Pair) (entrant : Entrant) : Option Log.Record :=
  match entrant.2.result with
  | .error (.venue fault) =>
    some ⟨.warning, "[" ++ entrant.1 ++ "] Failed to fetch " ++ pair.text ++ ": " ++ fault.message⟩
  | _ => none

theorem tracedRecords (pair : Pair) (entrant : Entrant) :
    (traceOf pair entrant).records = entrant.2.trace.records ++ (warning? pair entrant).toList := by
  unfold traceOf warning?
  cases entrant.2.result with
  | ok quote => rfl
  | error failure => cases failure <;> rfl

theorem outcomeContributes {attempt : Attempt Quote} {outcome : Outcome}
    (contributed : outcome? attempt = some outcome) :
    attempt.result = outcome.mapError .venue := by
  cases outcome with
  | ok quote => exact outcomeQuote contributed
  | error fault => exact outcomeFault contributed

theorem answersJoin
    (stays : ∀ entrant ∈ entrants, ∀ failure, ¬ Escapes entrant.2.result failure) :
    ∃ answers, entrants.mapM (fun entrant => outcome? entrant.2) = some answers ∧
      (entrants.map (·.1)).zip answers = outcomes entrants ∧
      List.Forall₂ Contributes entrants (outcomes entrants) := by
  induction entrants with
  | nil => exact ⟨[], rfl, rfl, .nil⟩
  | cons entrant rest ih =>
    obtain ⟨answers, all, zipped, own⟩ := ih fun other member =>
      stays other (List.mem_cons_of_mem _ member)
    obtain ⟨outcome, first⟩ := outcomeExists (stays entrant List.mem_cons_self)
    have joined : outcomes (entrant :: rest) = (entrant.1, outcome) :: outcomes rest := by
      simp [outcomes, first]
    refine ⟨outcome :: answers, by simp [first, all], by simp [joined, zipped], ?_⟩
    rw [joined]
    exact .cons ⟨rfl, outcomeContributes first⟩ own

theorem contributedNames {entries : List (String × Outcome)}
    (own : List.Forall₂ Contributes entrants entries) :
    entries.map (·.1) = entrants.map (·.1) := by
  induction own with
  | nil => rfl
  | cons first _ ih => simp [first.1, ih]

theorem returnedAnswers (names : (entrants.map (·.1)).Nodup)
    (reached : Reached pair entrants events s) (complete : s.IsComplete)
    (stays : ∀ entrant ∈ entrants, ∀ failure, ¬ Escapes entrant.2.result failure) :
    s.returned? entrants = some (.ok (outcomes entrants)) ∧
      List.Forall₂ Contributes entrants (outcomes entrants) := by
  obtain ⟨answers, all, zipped, own⟩ := answersJoin stays
  have none : s.escaped = none := by
    rw [reached.escaped, List.findSome?_eq_none_iff]
    intro entrant member
    cases found : escape? entrant.2 with
    | none => rfl
    | some failure =>
      exact absurd (escapeIff.mp found)
        (stays entrant ((completePerm reached complete).subset member) failure)
  refine ⟨?_, own⟩
  unfold Progress.returned?
  rw [none, completeStages reached complete, List.mapM_map]
  simp only [Function.comp_def, Stage.outcome?, all, Option.map_some, zipped]
  rw [Keyed.distinctSelf (contributedNames own ▸ names)]

theorem returnedEscape (reached : Reached pair entrants events s) {entrant : Entrant} {failure}
    (finished : entrant ∈ s.finishing entrants) (escapes : Escapes entrant.2.result failure) :
    ∃ before first after other, s.finishing entrants = before ++ first :: after ∧
      (∀ earlier ∈ before, ∀ failure, ¬ Escapes earlier.2.result failure) ∧
      Escapes first.2.result other ∧ s.returned? entrants = some (.error other) := by
  cases found : (s.finishing entrants).findSome? fun entrant => escape? entrant.2 with
  | none =>
    have none := List.findSome?_eq_none_iff.mp found entrant finished
    rw [escapeIff.mpr escapes] at none
    contradiction
  | some other =>
    obtain ⟨before, first, after, split, own, earlier⟩ := List.findSome?_eq_some_iff.mp found
    refine ⟨before, first, after, other, split, ?_, escapeIff.mp own, ?_⟩
    · intro entrant member failure escapes
      have none := earlier entrant member
      rw [escapeIff.mpr escapes] at none
      contradiction
    · unfold Progress.returned?
      rw [reached.escaped, found]

theorem joinReturned (names : (entrants.map (·.1)).Nodup)
    (reached : Reached pair entrants events s) (complete : s.IsComplete) :
    ∃ last : Attempt (List (String × Outcome)),
      join pair entrants (s.finishing entrants) = .after s.trace last ∧
      s.returned? entrants = some last.result := by
  unfold join
  rw [← reached.trace]
  refine ⟨_, rfl, ?_⟩
  cases found : (s.finishing entrants).findSome? fun entrant => escape? entrant.2 with
  | some failure =>
    unfold Progress.returned?
    rw [reached.escaped, found]
    rfl
  | none =>
    refine (returnedAnswers names reached complete fun entrant member failure escapes => ?_).1
    have finished := (completePerm reached complete).mem_iff.mpr member
    have none := List.findSome?_eq_none_iff.mp found entrant finished
    rw [escapeIff.mpr escapes] at none
    contradiction

end

structure Joined (pair : Pair) (entrants : List Entrant) (events : List Event) (s : Progress) :
    Prop where
  once : ∀ place < entrants.length,
    events.count (.call place) = 1 ∧ events.count (.finish place) = 1
  order : (s.finishing entrants).Perm entrants
  join : ∃ last : Attempt (List (String × Outcome)),
    join pair entrants (s.finishing entrants) = .after s.trace last ∧
    s.returned? entrants = some last.result
  own : (∀ entrant ∈ entrants, ∀ failure, ¬ Escapes entrant.2.result failure) →
    s.returned? entrants = some (.ok (outcomes entrants)) ∧
    List.Forall₂ Contributes entrants (outcomes entrants)
  requests : s.trace.requests = (s.finishing entrants).flatMap (·.2.trace.requests)
  records : s.trace.records = (s.finishing entrants).flatMap fun entrant =>
    entrant.2.trace.records ++ (warning? pair entrant).toList
  first : ∀ entrant ∈ entrants, ∀ failure, Escapes entrant.2.result failure →
    ∃ before first after other, s.finishing entrants = before ++ first :: after ∧
      (∀ earlier ∈ before, ∀ failure, ¬ Escapes earlier.2.result failure) ∧
      Escapes first.2.result other ∧ s.returned? entrants = some (.error other)

theorem joinInterleaved {pair : Pair} {entrants : List Entrant}
    (names : (entrants.map (·.1)).Nodup) :
    (∀ events s, run pair entrants (start entrants) events = some s → s.IsComplete →
      Joined pair entrants events s) ∧
    (∀ order : List Entrant, order.Perm entrants →
      ∃ events s, run pair entrants (start entrants) events = some s ∧ s.IsComplete ∧
        s.finishing entrants = order) ∧
    ((∀ entrant ∈ entrants, ∀ failure, ¬ Escapes entrant.2.result failure) →
      ∀ events s others s', run pair entrants (start entrants) events = some s → s.IsComplete →
        run pair entrants (start entrants) others = some s' → s'.IsComplete →
        s.returned? entrants = s'.returned? entrants) := by
  have reached {events s} (ran : run pair entrants (start entrants) events = some s) :
      Reached pair entrants events s := runReached names startReached ran
  refine ⟨fun events s ran complete => ?_, fun order perm => orderRuns names perm, ?_⟩
  · have finished := completePerm (reached ran) complete
    constructor
    case once => exact fun place inside => completeOnce (reached ran) complete inside
    case order => exact finished
    case join => exact joinReturned names (reached ran) complete
    case own => exact returnedAnswers names (reached ran) complete
    case requests => simp [(reached ran).trace, Trace.concat, List.flatMap_map, tracedRequests]
    case records => simp [(reached ran).trace, Trace.concat, List.flatMap_map, tracedRecords]
    case first =>
      intro entrant member failure escapes
      exact returnedEscape (reached ran) (finished.mem_iff.mpr member) escapes
  · intro stays events s others s' ran complete ran' complete'
    rw [(returnedAnswers names (reached ran) complete stays).1,
      (returnedAnswers names (reached ran') complete' stays).1]

def mixedPanel : List Entrant :=
  [("north", .pure ⟨.finite false 1 0, .finite false 3 0⟩),
    ("east", .fail (.venue (.timeout "late"))),
    ("south", .pure ⟨.finite false 2 0, .finite false 2 0⟩)]

def mixedEvents : List Event := [.call 2, .finish 2, .call 1, .call 0, .finish 1, .finish 0]

theorem mixedJoined :
    (mixedPanel.map (·.1)).Nodup ∧
      ∃ s, run .usd mixedPanel (start mixedPanel) mixedEvents = some s ∧ s.IsComplete ∧
        Joined .usd mixedPanel mixedEvents s ∧
        (s.finishing mixedPanel).map (·.1) = ["south", "east", "north"] ∧
        s.trace.records =
          [⟨.warning, "[east] Failed to fetch zec/usd: Request timeout: late"⟩] := by
  have names : (mixedPanel.map (·.1)).Nodup := by decide
  refine ⟨names, _, rfl, ?_, (joinInterleaved names).1 _ _ rfl ?_, rfl, rfl⟩
  all_goals simp [Progress.IsComplete, start, mixedPanel]

theorem askRuns {pair : Pair} {panel : List Scripted} (filled : panel ≠ [])
    (names : ((panel.map (·.entrant)).map (·.1)).Nodup) :
    ∃ events s, run pair (panel.map (·.entrant)) (start (panel.map (·.entrant))) events = some s ∧
      s.IsComplete ∧ ∃ last, ask pair panel = .after s.trace last ∧
        s.returned? (panel.map (·.entrant)) = some last.result := by
  have perm : ((finishing panel).map (·.entrant)).Perm (panel.map (·.entrant)) :=
    (List.mergeSort_perm panel _).map _
  obtain ⟨events, s, ran, complete, order⟩ := orderRuns names perm
  obtain ⟨last, joined, returned⟩ := joinReturned names (runReached names startReached ran) complete
  refine ⟨events, s, ran, complete, last, ?_, returned⟩
  unfold ask
  rw [if_neg (by simpa using filled), ← order, joined]

end QuorumRate.Panel
