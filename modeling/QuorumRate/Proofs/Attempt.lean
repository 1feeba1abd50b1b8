import QuorumRate.Panel

/-! Attempts that escape: those that end in a failure which is no fault of a venue. A panel gives
outcomes exactly if none of its attempts escapes, whatever the traces are. -/
namespace QuorumRate

section
variable {α β : Type}

/-- Does a result come to a failure that no quorum can bear? -/
def Escapes (result : Except Failure α) (failure : Failure) : Prop :=
  result = .error failure ∧ ∀ fault, failure ≠ .venue fault

theorem okStays {a : α} {failure} : ¬ Escapes (.ok a) failure := fun h => nomatch h.1

theorem venueStays {fault failure} : ¬ Escapes (.error (.venue fault) : Except Failure α) failure :=
  fun h => h.2 fault (Except.error.inj h.1).symm

theorem arithmeticEscapes {signal} :
    Escapes (.error (.arithmetic signal) : Except Failure α) (.arithmetic signal) :=
  ⟨rfl, fun _ => by simp⟩

theorem refusedEscapes {refusal text} :
    Escapes (.error (.refused refusal text) : Except Failure α) (.refused refusal text) :=
  ⟨rfl, fun _ => by simp⟩

theorem escapesBind {x : Except Failure α} {f : α → Except Failure β} {failure} :
    Escapes (x.bind f) failure ↔
      Escapes x failure ∨ ∃ a, x = .ok a ∧ Escapes (f a) failure := by
  cases x with
  | error other => simp [Escapes, Except.bind]
  | ok a => simp [Escapes, Except.bind]

theorem escapesMap {x : Except Failure α} {f : α → β} {failure} :
    Escapes (x.map f) failure ↔ Escapes x failure := by
  cases x <;> simp [Escapes, Except.map]

end

namespace Trace

theorem appendEmpty (trace : Trace) : trace ++ empty = trace := by
  change append trace empty = trace
  simp only [append, empty, List.append_nil]

theorem appendAssoc (a b c : Trace) : a ++ b ++ c = a ++ (b ++ c) := by
  change append (append a b) c = append a (append b c)
  simp only [append, List.append_assoc]

theorem concatSnoc (traces : List Trace) (last : Trace) :
    concat (traces ++ [last]) = concat traces ++ last := by
  simp only [concat, List.flatMap_append, List.flatMap_singleton]
  rfl

theorem concatEmpty {traces : List Trace} (each : ∀ trace ∈ traces, trace = empty) :
    concat traces = empty := by
  have requests : traces.flatMap (·.requests) = [] :=
    List.flatMap_eq_nil_iff.mpr fun trace member => congrArg Trace.requests (each trace member)
  have records : traces.flatMap (·.records) = [] :=
    List.flatMap_eq_nil_iff.mpr fun trace member => congrArg Trace.records (each trace member)
  rw [concat, requests, records]
  rfl

end Trace

namespace Attempt
variable {α β : Type}

theorem bindResult (x : Attempt α) (f : α → Attempt β) :
    (x >>= f).result = x.result.bind fun a => (f a).result := by
  obtain ⟨result, trace⟩ := x
  cases result <;> rfl

theorem bindOk {result : α} (trace : Trace) (f : α → Attempt β) :
    ((⟨.ok result, trace⟩ : Attempt α) >>= f) = .after trace (f result) := rfl

theorem quietBind (x : Attempt α) {f : α → Attempt β} (quiet : ∀ a, (f a).trace.requests = []) :
    (x >>= f).trace.requests = x.trace.requests := by
  obtain ⟨result, trace⟩ := x
  cases result with
  | error failure => rfl
  | ok a =>
    change trace.requests ++ (f a).trace.requests = trace.requests
    rw [quiet, List.append_nil]

theorem afterAfter (first second : Trace) (x : Attempt α) :
    after first (after second x) = after (first ++ second) x := by
  simp [after, Trace.appendAssoc]

end Attempt

namespace Panel

theorem escapeIff {attempt : Attempt Quote} {failure} :
    escape? attempt = some failure ↔ Escapes attempt.result failure := by
  unfold escape?
  split
  · rename_i quote result
    rw [result]
    exact ⟨nofun, fun h => absurd h okStays⟩
  · rename_i fault result
    rw [result]
    exact ⟨nofun, fun h => absurd h venueStays⟩
  · rename_i own notVenue result
    rw [result]
    constructor
    · intro same
      cases same
      exact ⟨rfl, notVenue⟩
    · rintro ⟨same, _⟩
      cases same
      rfl

theorem outcomeOfQuote {attempt : Attempt Quote} {quote} (ok : attempt.result = .ok quote) :
    outcome? attempt = some (.ok quote) := by
  unfold outcome?
  rw [ok]

theorem outcomeQuote {attempt : Attempt Quote} {quote}
    (contributed : outcome? attempt = some (.ok quote)) : attempt.result = .ok quote := by
  unfold outcome? at contributed
  split at contributed
  · rename_i own result
    cases contributed
    exact result
  · cases contributed
  · cases contributed

theorem outcomeFault {attempt : Attempt Quote} {fault}
    (contributed : outcome? attempt = some (.error fault)) :
    attempt.result = .error (.venue fault) := by
  unfold outcome? at contributed
  split at contributed
  · cases contributed
  · rename_i own result
    cases contributed
    exact result
  · cases contributed

theorem outcomeExists {attempt : Attempt Quote}
    (stays : ∀ failure, ¬ Escapes attempt.result failure) :
    ∃ outcome, outcome? attempt = some outcome := by
  unfold outcome?
  split
  · exact ⟨_, rfl⟩
  · exact ⟨_, rfl⟩
  · rename_i own notVenue result
    exact absurd ⟨result, notVenue⟩ (stays own)

theorem outcomeAnswered {attempt : Attempt Quote}
    (answered : (∃ quote, attempt.result = .ok quote) ∨
      ∃ fault, attempt.result = .error (.venue fault)) :
    ∃ outcome, outcome? attempt = some outcome := by
  unfold outcome?
  rcases answered with ⟨quote, result⟩ | ⟨fault, result⟩
  · exact ⟨.ok quote, by rw [result]⟩
  · exact ⟨.error fault, by rw [result]⟩

theorem outcomeAnswers {attempt : Attempt Quote}
    (contributes : (outcome? attempt).isSome = true) :
    (∃ quote, attempt.result = .ok quote) ∨ ∃ fault, attempt.result = .error (.venue fault) := by
  obtain ⟨outcome, contributed⟩ := Option.isSome_iff_exists.mp contributes
  cases outcome with
  | ok quote => exact .inl ⟨quote, outcomeQuote contributed⟩
  | error fault => exact .inr ⟨fault, outcomeFault contributed⟩

theorem outcomeStays {attempt : Attempt Quote} {outcome}
    (contributed : outcome? attempt = some outcome) (failure : Failure) :
    ¬ Escapes attempt.result failure := by
  rintro ⟨result, notVenue⟩
  unfold outcome? at contributed
  rw [result] at contributed
  split at contributed
  · contradiction
  · rename_i fault same
    exact notVenue fault (Except.error.inj same)
  · contradiction

theorem joinFails {pair : Pair} {entrants finishing : List Entrant} {failure}
    (first : (finishing.findSome? fun entrant => escape? entrant.2) = some failure) :
    (join pair entrants finishing).result = .error failure := by
  unfold join
  rw [first]
  rfl

theorem joinEnds {pair : Pair} {entrants finishing : List Entrant}
    (stays : ∀ entrant ∈ finishing, ∀ failure, ¬ Escapes entrant.2.result failure) :
    (join pair entrants finishing).result = .ok (outcomes entrants) := by
  have none : (finishing.findSome? fun entrant => escape? entrant.2) = none := by
    rw [List.findSome?_eq_none_iff]
    intro entrant member
    cases found : escape? entrant.2 with
    | none => rfl
    | some failure => exact absurd (escapeIff.mp found) (stays entrant member failure)
  unfold join
  rw [none]
  rfl

theorem tracedRequests (pair : Pair) (entrant : Entrant) :
    (traceOf pair entrant).requests = entrant.2.trace.requests := by
  unfold traceOf
  cases entrant.2.result with
  | ok quote => exact List.append_nil _
  | error failure => cases failure <;> exact List.append_nil _

theorem joinRequests (pair : Pair) (entrants finishing : List Entrant) :
    (join pair entrants finishing).trace.requests = finishing.flatMap (·.2.trace.requests) := by
  have quiet (last : Attempt (List (String × Outcome))) (silent : last.trace.requests = []) :
      (Attempt.after (.concat (finishing.map (traceOf pair))) last).trace.requests =
        finishing.flatMap (·.2.trace.requests) := by
    change _ ++ last.trace.requests = _
    simp [Trace.concat, silent, List.flatMap_map, tracedRequests]
  unfold join
  split
  · exact quiet _ rfl
  · exact quiet _ rfl

end Panel
end QuorumRate
