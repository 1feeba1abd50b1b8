import QuorumRate.Attempt
import QuorumRate.Pair
/-! A panel of venues asked at the same time. All of them are waited for; what each contributes
comes back in the panel's order, whatever the order in which they finish. Only a failure that is
no venue's fault keeps the others' answers from coming back. -/
namespace QuorumRate

abbrev Entrant := String × Attempt Quote

namespace Panel

def outcome? (attempt : Attempt Quote) : Option Outcome :=
  match attempt.result with
  | .ok quote => some (.ok quote)
  | .error (.venue fault) => some (.error fault)
  | .error _ => none

def escape? (attempt : Attempt Quote) : Option Failure :=
  match attempt.result with
  | .ok _ => none
  | .error (.venue _) => none
  | .error failure => some failure

def traceOf (pair : Pair) (entrant : Entrant) : Trace :=
  entrant.2.trace ++
    match entrant.2.result with
    | .error (.venue fault) =>
      .ofRecord .warning
        ("[" ++ entrant.1 ++ "] Failed to fetch " ++ pair.text ++ ": " ++ fault.message)
    | _ => .empty

def outcomes (entrants : List Entrant) : List (String × Outcome) :=
  entrants.filterMap fun (name, attempt) => (outcome? attempt).map (name, ·)

def shown (outcomes : List (String × Outcome)) : String :=
  "\x7b" ++
    String.intercalate ", " (outcomes.map fun (name, o) => quoted name ++ ": " ++ o.shown) ++
    "\x7d"

def join (pair : Pair) (entrants finishing : List Entrant) :
    Attempt (List (String × Outcome)) :=
  .after (.concat (finishing.map (traceOf pair))) <|
    match finishing.findSome? fun entrant => escape? entrant.2 with
    | some failure => .fail failure
    | none => do
      .log .debug ("Venue results for " ++ pair.text ++ ": " ++ shown (outcomes entrants))
      return outcomes entrants

structure Scripted where
  name : String
  yields : Nat
  attempt : Attempt Quote

def Scripted.entrant (s : Scripted) : Entrant := (s.name, s.attempt)

def finishing (panel : List Scripted) : List Scripted :=
  panel.mergeSort fun a b => a.yields ≤ b.yields

def ask (pair : Pair) (panel : List Scripted) : Attempt (List (String × Outcome)) :=
  if panel.isEmpty then .fail (.misuse .emptyPanel)
  else join pair (panel.map (·.entrant)) ((finishing panel).map (·.entrant))

end Panel
end QuorumRate
