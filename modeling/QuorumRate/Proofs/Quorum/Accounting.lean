import Mathlib.Algebra.Ring.Parity
import Mathlib.Order.Bounds.Basic
import QuorumRate.Proofs.Quorum.Seating

/-! What an aggregation owes to its outcomes: every venue ends up in exactly one place, and a lot
is drawn only where the number of prices is even. -/
namespace QuorumRate.Quorum

def Report.sources (r : Report) : List String := (r.metadata.seats.map (·.sources)).getD []

def Report.evicted (r : Report) : Option String := r.metadata.seats.bind (·.evicted)

def isHeldOutQuote (heldOut : String) (o : String × Outcome) : Bool := isQuote o && o.1 = heldOut

def heldOutQuotes (heldOut : String) (outcomes : List (String × Outcome)) : Nat :=
  if outcomes.any (isHeldOutQuote heldOut) then 1 else 0

def candidateNames (heldOut : String) (outcomes : List (String × Outcome)) : List String :=
  (outcomes.filter fun o => isQuote o && o.1 ≠ heldOut).map (·.1)

def NeedsLot (outcomes : List (String × Outcome)) : Prop :=
  quoteCount outcomes % 2 = 0 ∧ 0 < quoteCount outcomes
instance (outcomes) : Decidable (NeedsLot outcomes) := by unfold NeedsLot; infer_instance

theorem NeedsLot.candidates {outcomes} (need : NeedsLot outcomes) (heldOut : String) :
    0 < quoteCount outcomes - heldOutQuotes heldOut outcomes := by
  obtain ⟨even, positive⟩ := need
  have atMostOne : heldOutQuotes heldOut outcomes ≤ 1 := by
    unfold heldOutQuotes
    split <;> omega
  omega

structure Accounted (heldOut : String) (picks : List Int) (outcomes : List (String × Outcome))
    (run : Aggregation) (r : Report) : Prop where
  fails : r.isSuccess = false ↔ quoteCount outcomes = 0
  failure : quoteCount outcomes = 0 →
    r.price = none ∧ r.error? = some "all_sources_failed" ∧ r.metadata.seats = none
  success : 0 < quoteCount outcomes → r.error? = none ∧
    ∃ seats, r.metadata.seats = some seats ∧
      IsGreatest {k | Odd k ∧ k ≤ quoteCount outcomes} seats.count
  asked : run.asked =
    if NeedsLot outcomes then [quoteCount outcomes - heldOutQuotes heldOut outcomes] else []
  askedPositive : 0 ∉ run.asked
  left : run.picks = picks.drop run.asked.length
  evicted : r.evicted =
    if NeedsLot outcomes then
      (candidateNames heldOut outcomes)[
        (draw (quoteCount outcomes - heldOutQuotes heldOut outcomes) picks).1]?
    else none
  evictedSome : NeedsLot outcomes → r.evicted.isSome = true
  venues : (r.sources ++ r.evicted.toList ++ r.metadata.failed).Perm (outcomes.map (·.1))
  once : (r.sources ++ r.evicted.toList ++ r.metadata.failed).Nodup
  failed : r.metadata.failed = (faults outcomes).map (·.1)
  errors : r.errors = faults outcomes
  heldOutStays : ∀ quote, (heldOut, .ok quote) ∈ outcomes → heldOut ∈ r.sources

theorem candidatesMap {heldOut : String} {outcomes} (priced : Priced outcomes) :
    ((entries outcomes).filter (·.1 ≠ heldOut)).map (·.1) = candidateNames heldOut outcomes := by
  induction outcomes with
  | nil => rfl
  | cons o rest ih =>
    obtain ⟨name, outcome⟩ := o
    have tail := ih priced.tail
    unfold candidateNames at tail ⊢
    cases outcome with
    | error fault =>
      rw [entriesFault, List.filter_cons_of_neg (by simp [isQuote, Except.isOk, Except.toBool])]
      exact tail
    | ok quote =>
      obtain ⟨price, found⟩ := priced name quote List.mem_cons_self
      rw [entriesQuote rest found]
      by_cases same : name = heldOut
      · rw [List.filter_cons_of_neg (by simpa using same), tail,
          List.filter_cons_of_neg (by simp [same])]
      · rw [List.filter_cons_of_pos (by simpa using same), List.map_cons, tail,
          List.filter_cons_of_pos (by simp [isQuote, Except.isOk, Except.toBool, same])]
        rfl

theorem Counts.lastLength {heldOut outcomes b} (counts : Counts heldOut outcomes b)
    (priced : Priced outcomes) : (b.last heldOut).length = heldOutQuotes heldOut outcomes := by
  unfold heldOutQuotes
  split
  · rename_i present
    obtain ⟨⟨name, outcome⟩, member, held⟩ := List.any_eq_true.mp present
    simp only [isHeldOutQuote, Bool.and_eq_true, decide_eq_true_eq] at held
    obtain ⟨ok, rfl⟩ := held
    cases outcome with
    | error fault => contradiction
    | ok quote =>
      obtain ⟨price, found⟩ := priced name quote member
      have entry : (name, price) ∈ b.last name := by
        rw [counts.last, List.mem_filter]
        exact ⟨memEntries.mpr ⟨quote, member, found⟩, by simp⟩
      have positive := List.length_pos_of_mem entry
      have atMostOne := lastAtMostOne b name
      omega
  · rename_i absent
    rw [counts.last, List.length_eq_zero_iff, List.filter_eq_nil_iff]
    rintro entry member same
    obtain ⟨quote, present, _⟩ := memEntries.mp member
    apply absent
    rw [List.any_eq_true]
    exact ⟨_, present, by simpa [isHeldOutQuote, isQuote, Except.isOk, Except.toBool] using same⟩

theorem Counts.candidatesLength {heldOut outcomes b} (counts : Counts heldOut outcomes b)
    (priced : Priced outcomes) :
    b.candidates.length = quoteCount outcomes - heldOutQuotes heldOut outcomes := by
  have size := b.sizeEq heldOut
  rw [counts.size priced, counts.lastLength priced] at size
  omega

theorem Counts.candidateNames {heldOut outcomes b} (counts : Counts heldOut outcomes b)
    (priced : Priced outcomes) :
    b.candidates.map (·.1) = candidateNames heldOut outcomes := by
  rw [counts.candidates, candidatesMap priced]

theorem Counts.needsLot {heldOut outcomes b} (counts : Counts heldOut outcomes b)
    (priced : Priced outcomes) : b.NeedsLot ↔ NeedsLot outcomes := by
  unfold Ballot.NeedsLot NeedsLot
  rw [counts.size priced]

theorem greatestOdd {k n : Nat} (odd : k % 2 = 1) (le : k ≤ n) (next : n ≤ k + 1) :
    IsGreatest {j | Odd j ∧ j ≤ n} k := by
  refine ⟨⟨Nat.odd_iff.mpr odd, le⟩, ?_⟩
  rintro j ⟨jOdd, below⟩
  have := Nat.odd_iff.mp jOdd
  omega

theorem reportSources (drawn : Drawn) (faults : List (String × Venue.Fault)) (seats : List Entry) :
    (report drawn faults seats).sources = seats.map (·.1) := by
  cases seats with
  | nil => rfl
  | cons first rest =>
    have positive : 0 < (first :: rest).length := Nat.succ_pos _
    obtain ⟨median, _, form⟩ := reportSeats drawn faults positive
    rw [form]
    rfl

theorem reportFaults (drawn : Drawn) (faults : List (String × Venue.Fault)) (seats : List Entry) :
    (report drawn faults seats).metadata.failed = faults.map (·.1) ∧
      (report drawn faults seats).errors = faults := by
  unfold report
  split <;> exact ⟨rfl, rfl⟩

namespace Seated
variable {heldOut : String} {picks : List Int} {outcomes : List (String × Outcome)} {b : Ballot}
  {seats : List Entry}

theorem evicted (h : Seated heldOut picks outcomes b seats) (priced : Priced outcomes) :
    (report (b.evict heldOut picks) (faults outcomes) seats).evicted =
      (b.evict heldOut picks).evicted.map (·.1) := by
  rcases Nat.eq_zero_or_pos (quoteCount outcomes) with none | positive
  · have empty := evictEmpty heldOut picks ((h.counts.size priced).trans none)
    rw [h.empty priced none, empty]
    rfl
  · obtain ⟨median, _, form⟩ := h.median priced positive
    rw [form]
    rfl

theorem needsLot (h : Seated heldOut picks outcomes b seats) (priced : Priced outcomes) :
    b.NeedsLot ↔ NeedsLot outcomes := h.counts.needsLot priced

theorem venues (h : Seated heldOut picks outcomes b seats) (priced : Priced outcomes) :
    (seats.map (·.1) ++ ((b.evict heldOut picks).evicted.map (·.1)).toList ++
      (faults outcomes).map (·.1)).Perm (outcomes.map (·.1)) := by
  have quoted := (h.total.map (·.1)).append_right ((faults outcomes).map (·.1))
  rw [List.map_append, ← Option.toList_map] at quoted
  exact quoted.trans (entriesFaultsPerm priced)

theorem heldOutStays (h : Seated heldOut picks outcomes b seats) (priced : Priced outcomes)
    {quote : Quote} (member : (heldOut, .ok quote) ∈ outcomes) : heldOut ∈ seats.map (·.1) := by
  obtain ⟨price, found⟩ := priced heldOut quote member
  obtain ⟨stay, kept, _⟩ := evictKept heldOut b picks
  have last : (heldOut, price) ∈ b.last heldOut := by
    rw [h.counts.last, List.mem_filter]
    exact ⟨memEntries.mpr ⟨quote, member, found⟩, by simp⟩
  have seated : (heldOut, price) ∈ seats := by
    rw [h.perm.mem_iff, kept]
    exact List.mem_append_right stay last
  exact List.mem_map_of_mem seated

end Seated

theorem aggregateAccounted (heldOut : String) (picks : List Int)
    {outcomes : List (String × Outcome)} (distinct : Distinct outcomes)
    (finite : FinitePrices outcomes) :
    ∃ r, (aggregate heldOut picks outcomes).result = .ok r ∧
      Accounted heldOut picks outcomes (aggregate heldOut picks outcomes) r := by
  obtain ⟨b, seats, seated⟩ := aggregateSeated heldOut picks distinct finite
  have priced := finite.priced
  have lot := seated.needsLot priced
  have among := seated.counts.candidatesLength priced
  obtain ⟨asked, left, evicted⟩ := evictLot heldOut b picks
  simp only [lot, among] at asked evicted
  have names : b.candidates.map (·.1) = candidateNames heldOut outcomes := by
    rw [seated.counts.candidates, candidatesMap priced]
  have venues := seated.venues priced
  refine ⟨_, seated.result, ?_⟩
  constructor
  case fails =>
    rcases Nat.eq_zero_or_pos (quoteCount outcomes) with none | positive
    · rw [seated.empty priced none]
      exact ⟨fun _ => none, fun _ => rfl⟩
    · obtain ⟨median, _, form⟩ := seated.median priced positive
      rw [form]
      exact ⟨fun absent => (nomatch absent), fun none => by omega⟩
  case failure =>
    intro none
    rw [seated.empty priced none]
    exact ⟨rfl, rfl, rfl⟩
  case success =>
    intro positive
    obtain ⟨odd, le, next⟩ := seated.odd priced positive
    obtain ⟨median, _, form⟩ := seated.median priced positive
    rw [form]
    refine ⟨rfl, _, rfl, ?_⟩
    rw [Seats.count, List.length_map]
    exact greatestOdd odd le next
  case asked => exact seated.asked.trans asked
  case askedPositive =>
    rw [seated.asked, asked]
    split
    · rename_i need
      have some := need.candidates heldOut
      rw [List.mem_singleton]
      omega
    · exact List.not_mem_nil
  case left => rw [seated.picks, seated.asked, left]
  case evicted =>
    rw [seated.evicted priced, evicted, ← names]
    split
    · exact List.getElem?_map.symm
    · rfl
  case evictedSome =>
    intro need
    have drawn := drawLt (need.candidates heldOut) picks
    rw [← among] at drawn evicted
    rw [seated.evicted priced, evicted, if_pos need, List.getElem?_eq_getElem drawn]
    rfl
  case venues =>
    rw [reportSources, seated.evicted priced, (reportFaults _ _ _).1]
    exact venues
  case once =>
    rw [reportSources, seated.evicted priced, (reportFaults _ _ _).1]
    exact venues.nodup_iff.mpr distinct
  case failed => exact (reportFaults _ _ _).1
  case errors => exact (reportFaults _ _ _).2
  case heldOutStays =>
    intro quote member
    rw [reportSources]
    exact seated.heldOutStays priced member

theorem fourQuotesAccounted :
    Distinct fourQuotes ∧ FinitePrices fourQuotes ∧
      ∃ r, (aggregate "gemini" [5] fourQuotes).result = .ok r ∧
        Accounted "gemini" [5] fourQuotes (aggregate "gemini" [5] fourQuotes) r :=
  ⟨fourQuotesDistinct, fourQuotesFinite,
    aggregateAccounted "gemini" [5] fourQuotesDistinct fourQuotesFinite⟩

end QuorumRate.Quorum
