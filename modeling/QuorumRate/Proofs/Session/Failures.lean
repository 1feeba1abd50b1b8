import QuorumRate.Proofs.Session.Isolation

/-! What a rate can fail by. In an open session it is what the venues answer, or the arithmetic on
it; that a session is used wrongly shows when it is started, and never in a rate. -/
namespace QuorumRate

def Failure.IsMisuse : Failure → Prop
  | .misuse _ => True
  | _ => False

section
variable {α β ε : Type}

def Blameless : Except Failure α → Prop
  | .ok _ => True
  | .error failure => ¬ failure.IsMisuse

theorem blamelessFailure {x : Except Failure α} {failure : Failure} (blameless : Blameless x)
    (failed : x = .error failure) : ¬ failure.IsMisuse := by
  subst failed
  exact blameless

theorem blamelessBind {x : Except Failure α} {f : α → Except Failure β} (first : Blameless x)
    (second : ∀ a, Blameless (f a)) : Blameless (x >>= f) := by
  cases x with
  | error failure => exact first
  | ok a => exact second a

theorem blamelessMap {x : Except Failure α} {f : α → β} (blameless : Blameless x) :
    Blameless (x.map f) := by
  cases x with
  | error failure => exact blameless
  | ok a => exact blameless

theorem blamelessMapError {x : Except ε α} {f : ε → Failure} (blameless : ∀ e, ¬ (f e).IsMisuse) :
    Blameless (x.mapError f) := by
  cases x with
  | error e => exact blameless e
  | ok a => exact trivial

end

namespace Client

theorem checkHostBlameless (url : Url) : Blameless (checkHost url) := by
  unfold checkHost
  cases Url.hostFault? url.host with
  | none => exact trivial
  | some fault => exact id

theorem targetBlameless (here : Url) (location : String) : Blameless (target here location) := by
  have last (there : Url) : Blameless (do
      let url ← (here.redirect there).mapError Failure.ofUrlFault
      checkHost url
      return url) :=
    blamelessBind (blamelessMapError fun _ => id) fun url =>
      blamelessBind (checkHostBlameless url) fun _ => trivial
  unfold target
  refine blamelessBind (blamelessMapError fun _ => id) fun there => ?_
  dsimp only
  split
  · exact blamelessBind (checkHostBlameless there) fun _ => last there
  · exact last there

theorem nextBlameless (here : Url) (status : Int) (location : Option Octets) :
    Blameless (next? here status location) := by
  unfold next?
  split
  · exact trivial
  · split
    · exact blamelessMap (targetBlameless here _)
    · exact trivial

end Client

theorem Strays.blameless {net : Network} {left : Nat} {url : Url} {failure : Failure}
    (strays : Strays net left url failure) : ¬ failure.IsMisuse := by
  induction strays with
  | misled astray =>
    cases astray with
    | refused => exact id
    | unwritable => exact id
    | derailed _ escapes => exact blamelessFailure (Client.nextBlameless ..) escapes.1
  | unholdable => exact id
  | hop _ _ _ ih => exact ih

theorem Panel.joinEscaped {pair : Pair} {entrants finishing : List Entrant} {failure : Failure}
    (failed : (join pair entrants finishing).result = .error failure) :
    (finishing.findSome? fun entrant => escape? entrant.2) = some failure := by
  unfold join at failed
  split at failed
  · rename_i first found
    cases failed
    exact found
  · cases failed

namespace Session

theorem settleBlameless {pair : Pair} {picks : List Int} {outcomes : List (String × Outcome)}
    {failure : Failure} (failed : (settle pair picks outcomes).result = .error (.other failure)) :
    ¬ failure.IsMisuse := by
  unfold settle at failed
  dsimp only at failed
  split at failed
  · cases failed
    exact id
  · split at failed
    · cases failed
    · split at failed <;> cases failed

theorem rateBlameless {client : Client} (isOpen : client.isClosed = false) {net : Network}
    {picks : List Int} {code : Text} {failure : Failure}
    (failed : (rateIn client net picks code).result = .error (.other failure)) :
    ¬ failure.IsMisuse := by
  unfold rateIn at failed
  split at failed
  · rename_i pair _
    unfold rateOf at failed
    dsimp only at failed
    split at failed
    · rename_i own joined
      cases failed
      obtain ⟨entrant, member, escapes⟩ :=
        List.exists_of_findSome?_eq_some (Panel.joinEscaped joined)
      obtain ⟨v, _, rfl⟩ := List.mem_map.mp member
      exact ((Venue.fetchStrays isOpen).mp (Panel.escapeIff.mp escapes)).blameless
    · exact settleBlameless failed
  · cases failed

end Session
end QuorumRate
