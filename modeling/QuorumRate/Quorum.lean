import QuorumRate.Keyed
import QuorumRate.Panel
/-! The quorum: the median of an odd number of prices. If their number is even one of them is
evicted by lot, never that of the held-out venue. The prices are sorted by value, equal ones in
the order of the venues with the held-out one last, and the middle one is the rate. -/
namespace QuorumRate

abbrev Entry := String × Decimal

namespace Quorum

structure Ballot where
  candidates : List Entry
  heldOut : Option Decimal
  faults : List (String × Venue.Fault)

def ballot (heldOut : String) : List (String × Outcome) → Except Decimal.Signal Ballot
  | [] => .ok ⟨[], none, []⟩
  | (name, .error fault) :: rest => do
    let b ← ballot heldOut rest
    return { b with faults := (name, fault) :: b.faults }
  | (name, .ok quote) :: rest => do
    let price ← quote.price
    let b ← ballot heldOut rest
    if name = heldOut then return { b with heldOut := some (b.heldOut.getD price) }
    else return { b with candidates := (name, price) :: b.candidates }

def Ballot.size (b : Ballot) : Nat := b.candidates.length + b.heldOut.toList.length

/-- Takes a number below the given one from the picks; without any left it is zero. -/
def draw (n : Nat) : List Int → Nat × List Int
  | [] => (0, [])
  | pick :: rest => ((pick.emod n).toNat, rest)

structure Drawn where
  evicted : Option Entry
  kept : List Entry
  asked : List Nat
  picks : List Int

def Ballot.evict (heldOut : String) (b : Ballot) (picks : List Int) : Drawn :=
  let last := b.heldOut.toList.map (heldOut, ·)
  if b.size % 2 = 0 ∧ b.candidates ≠ [] then
    let (i, picks') := draw b.candidates.length picks
    ⟨b.candidates[i]?, b.candidates.eraseIdx i ++ last, [b.candidates.length], picks'⟩
  else ⟨none, b.candidates ++ last, [], picks⟩

def insert (entry : Entry) : List Entry → Except Decimal.Signal (List Entry)
  | [] => .ok [entry]
  | first :: rest => do
    if ← Decimal.less first.2 entry.2 then return first :: (← insert entry rest)
    else return entry :: first :: rest

def sort : List Entry → Except Decimal.Signal (List Entry)
  | [] => .ok []
  | entry :: rest => do insert entry (← sort rest)

structure Seats where
  sources : List String
  evicted : Option String
  medianSource : String
  deriving DecidableEq, Repr

def Seats.count (s : Seats) : Nat := s.sources.length

structure Metadata where
  error : Option String
  failed : List String
  seats : Option Seats
  deriving DecidableEq, Repr

structure Report where
  price : Option Decimal
  metadata : Metadata
  errors : List (String × Venue.Fault)

def Report.isSuccess (r : Report) : Bool := r.price.isSome

def Report.error? (r : Report) : Option String :=
  if r.isSuccess then none else r.metadata.error

def allFailed : String := "all_sources_failed"

def report (drawn : Drawn) (faults : List (String × Venue.Fault)) (sorted : List Entry) : Report :=
  let failed := faults.map (·.1)
  match sorted[sorted.length / 2]? with
  | none => ⟨none, ⟨some allFailed, failed, none⟩, faults⟩
  | some (source, price) =>
    ⟨some price, ⟨none, failed, some ⟨sorted.map (·.1), drawn.evicted.map (·.1), source⟩⟩, faults⟩

structure Aggregation where
  result : Except Decimal.Signal Report
  asked : List Nat
  picks : List Int
  records : List Log.Record

def evictionRecords (evicted : Option Entry) : List Log.Record :=
  evicted.toList.map fun (name, price) =>
    ⟨.debug, "Evicted [" ++ name ++ "] price " ++ price.toString ++ " to keep an odd quorum"⟩

def faultRecords (faults : List (String × Venue.Fault)) : List Log.Record :=
  faults.map fun (name, fault) => ⟨.error, "[" ++ name ++ "] " ++ fault.message⟩

def aggregate (heldOut : String) (picks : List Int) (outcomes : List (String × Outcome)) :
    Aggregation :=
  match ballot heldOut outcomes with
  | .error signal => ⟨.error signal, [], picks, []⟩
  | .ok b =>
    let drawn := b.evict heldOut picks
    { result := (sort drawn.kept).map (report drawn b.faults)
      asked := drawn.asked
      picks := drawn.picks
      records :=
        evictionRecords drawn.evicted ++ if drawn.kept.isEmpty then faultRecords b.faults else [] }

def stray? : Except Failure Quote → Option Stray
  | .error (.stray kind _) => some kind
  | _ => none

def outcome? : Except Failure Quote → Option Outcome
  | .ok quote => some (.ok quote)
  | .error (.venue fault) => some (.error fault)
  | .error _ => none

def aggregateAny (heldOut : String) (picks : List Int)
    (entries : List (String × Except Failure Quote)) : Except Failure Aggregation :=
  let outcomes := fun (entries : List (String × Except Failure Quote)) =>
    entries.filterMap fun (name, e) => (outcome? e).map (name, ·)
  match entries.findSome? (stray? ·.2) with
  | none => .ok (aggregate heldOut picks (outcomes entries))
  | some kind =>
    match ballot heldOut (outcomes (entries.takeWhile fun entry => (stray? entry.2).isNone)) with
    | .error signal => .ok ⟨.error signal, [], picks, []⟩
    | .ok _ => .error (.priceless kind)

def heldOut? (name : String) : Except Misuse String :=
  if name.isEmpty then .error .emptyHeldOut else .ok name

end Quorum
end QuorumRate
