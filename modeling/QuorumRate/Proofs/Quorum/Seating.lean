import Mathlib.Data.List.Sort
import QuorumRate.Proofs.Decimal.Value
import QuorumRate.Proofs.Quorum.Ballot

/-! The seating of a quorum: finite prices in ascending order of their values, equal ones as they
were drawn up. Ranks are counts of the entries below and above a seat, so that what holds of a rank
does not depend on how the entries got there. -/
namespace QuorumRate.Quorum

def Finite (l : List Entry) : Prop := ∀ entry ∈ l, entry.2.isFinite = true

def NotAbove (a b : Entry) : Prop := a.2.value ≤ b.2.value
instance : DecidableRel NotAbove := fun a b =>
  inferInstanceAs (Decidable (a.2.value ≤ b.2.value))

def Ahead (drawnUp : List Entry) (a b : Entry) : Prop :=
  a.2.value < b.2.value ∨ a.2.value = b.2.value ∧ [a, b].Sublist drawnUp

theorem Ahead.le {drawnUp a b} (h : Ahead drawnUp a b) : a.2.value ≤ b.2.value := by
  rcases h with below | ⟨same, _⟩
  · exact below.le
  · exact same.le

theorem Ahead.cons {drawnUp a b} (entry) (h : Ahead drawnUp a b) : Ahead (entry :: drawnUp) a b :=
  h.imp_right fun ⟨same, before⟩ => ⟨same, before.cons entry⟩

theorem insertFinite {entry : Entry} {l : List Entry} (head : entry.2.isFinite = true)
    (finite : Finite l) : insert entry l = .ok (l.orderedInsert NotAbove entry) := by
  induction l with
  | nil => rfl
  | cons first rest ih =>
    have tail := ih fun e member => finite e (List.mem_cons_of_mem first member)
    rw [insert, Decimal.lessFinite (finite first List.mem_cons_self) head, tail,
      List.orderedInsert_cons]
    by_cases below : first.2.value < entry.2.value
    · have order : ¬ NotAbove entry first := not_le.mpr below
      simp [below, order, bind, Except.bind, pure, Except.pure]
    · have order : NotAbove entry first := not_lt.mp below
      simp [below, order, bind, Except.bind, pure, Except.pure]

theorem sortFinite {l : List Entry} (finite : Finite l) :
    sort l = .ok (l.insertionSort NotAbove) := by
  induction l with
  | nil => rfl
  | cons entry rest ih =>
    have tail : Finite rest := fun e member => finite e (List.mem_cons_of_mem entry member)
    have sorted : Finite (rest.insertionSort NotAbove) := fun e member =>
      tail e ((List.mem_insertionSort NotAbove).mp member)
    rw [sort, ih tail, List.insertionSort_cons]
    exact insertFinite (finite entry List.mem_cons_self) sorted

theorem orderedInsertAhead {entry : Entry} {drawnUp l : List Entry} (within : l ⊆ drawnUp)
    (seated : l.Pairwise (Ahead drawnUp)) :
    (l.orderedInsert NotAbove entry).Pairwise (Ahead (entry :: drawnUp)) := by
  induction l with
  | nil => exact List.pairwise_singleton _ _
  | cons first rest ih =>
    obtain ⟨front, behind⟩ := List.pairwise_cons.mp seated
    rw [List.orderedInsert_cons]
    split
    · rename_i order
      refine List.pairwise_cons.mpr ⟨?_, seated.imp (Ahead.cons entry)⟩
      intro other member
      have le : entry.2.value ≤ other.2.value := by
        rcases List.mem_cons.mp member with rfl | later
        · exact order
        · exact le_trans order (front other later).le
      rcases le.lt_or_eq with below | same
      · exact .inl below
      · exact .inr ⟨same, (List.singleton_sublist.mpr (within member)).cons_cons entry⟩
    · rename_i order
      have below : first.2.value < entry.2.value := not_le.mp order
      refine List.pairwise_cons.mpr
        ⟨?_, ih (fun e member => within (List.mem_cons_of_mem first member)) behind⟩
      intro other member
      rcases (List.mem_orderedInsert NotAbove).mp member with rfl | later
      · exact .inl below
      · exact (front other later).cons entry

theorem insertionSortAhead (l : List Entry) :
    (l.insertionSort NotAbove).Pairwise (Ahead l) := by
  induction l with
  | nil => exact .nil
  | cons entry rest ih =>
    rw [List.insertionSort_cons]
    exact orderedInsertAhead (fun e member => (List.mem_insertionSort NotAbove).mp member) ih

/-! Ranks. -/

section Ranks
variable {α : Type} (f : α → ℚ) {l : List α} {i : Nat} {x : α}

theorem countBelow (ascending : l.Pairwise fun a b => f a ≤ f b) (seat : l[i]? = some x) :
    l.countP (fun a => f a < f x) ≤ i := by
  obtain ⟨within, rfl⟩ := List.getElem?_eq_some_iff.mp seat
  have behind : (l.drop i).countP (fun a => f a < f l[i]) = 0 := by
    rw [List.countP_eq_zero]
    intro a member
    have tail := ascending.sublist (List.drop_sublist i l)
    rw [List.drop_eq_getElem_cons within] at tail member
    rcases List.mem_cons.mp member with rfl | later
    · simp
    · simpa using (List.pairwise_cons.mp tail).1 a later
  calc l.countP (fun a => f a < f l[i])
      = (l.take i).countP (fun a => f a < f l[i]) + (l.drop i).countP (fun a => f a < f l[i]) := by
        rw [← List.countP_append, List.take_append_drop]
    _ ≤ (l.take i).length := by
        rw [behind]
        exact List.countP_le_length
    _ ≤ i := List.length_take_le i l

theorem countAbove (ascending : l.Pairwise fun a b => f a ≤ f b) (seat : l[i]? = some x) :
    l.countP (fun a => f x < f a) + i < l.length := by
  obtain ⟨within, rfl⟩ := List.getElem?_eq_some_iff.mp seat
  have front : (l.take (i + 1)).countP (fun a => f l[i] < f a) = 0 := by
    rw [List.countP_eq_zero]
    intro a member
    have head := ascending.sublist (List.take_sublist (i + 1) l)
    rw [List.take_succ_eq_append_getElem within] at head member
    rcases List.mem_append.mp member with earlier | last
    · simpa using (List.pairwise_append.mp head).2.2 a earlier _ (List.mem_singleton_self _)
    · simp [List.mem_singleton.mp last]
  have split : l.countP (fun a => f l[i] < f a) =
      (l.take (i + 1)).countP (fun a => f l[i] < f a) +
        (l.drop (i + 1)).countP (fun a => f l[i] < f a) := by
    rw [← List.countP_append, List.take_append_drop]
  have rest : (l.drop (i + 1)).countP (fun a => f l[i] < f a) ≤ (l.drop (i + 1)).length :=
    List.countP_le_length
  rw [List.length_drop] at rest
  omega

end Ranks

/-! The whole aggregation, when every quote has a finite price. -/

def FinitePrices (outcomes : List (String × Outcome)) : Prop :=
  ∀ name quote, (name, .ok quote) ∈ outcomes →
    ∃ price, quote.price = .ok price ∧ price.isFinite = true

theorem FinitePrices.priced {outcomes} (h : FinitePrices outcomes) : Priced outcomes :=
  fun name quote member => (h name quote member).imp fun _ => And.left

theorem FinitePrices.entries {outcomes} (h : FinitePrices outcomes) :
    Finite (entries outcomes) := by
  intro entry member
  obtain ⟨quote, present, priced⟩ := memEntries.mp member
  obtain ⟨price, found, finite⟩ := h entry.1 quote present
  rw [priced] at found
  cases found
  exact finite

def fourQuotes : List (String × Outcome) :=
  [("alpha", .ok ⟨.finite false 10 0, .finite false 12 0⟩),
   ("beta", .error (.timeout "late")),
   ("gemini", .ok ⟨.finite false 90 (-1), .finite false 110 (-1)⟩),
   ("kappa", .ok ⟨.finite false 10 0, .finite false 10 0⟩),
   ("mu", .ok ⟨.finite false 1 0, .finite false 3 0⟩)]

theorem fourQuotesDistinct : Distinct fourQuotes := by
  unfold Distinct
  decide

theorem fourQuotesFinite : FinitePrices fourQuotes := by
  intro name quote member
  simp only [fourQuotes, List.mem_cons, List.not_mem_nil, Prod.mk.injEq, Except.ok.injEq,
    reduceCtorEq, and_false, or_false, false_or] at member
  rcases member with ⟨_, rfl⟩ | ⟨_, rfl⟩ | ⟨_, rfl⟩ | ⟨_, rfl⟩ <;> exact ⟨_, rfl, rfl⟩

theorem reportSeats (drawn : Drawn) (faults : List (String × Venue.Fault)) {seats : List Entry}
    (positive : 0 < seats.length) :
    ∃ median, seats[seats.length / 2]? = some median ∧
      report drawn faults seats =
        ⟨some median.2, ⟨none, faults.map (·.1),
          some ⟨seats.map (·.1), drawn.evicted.map (·.1), median.1⟩⟩, faults⟩ := by
  have within : seats.length / 2 < seats.length := by omega
  refine ⟨seats[seats.length / 2], List.getElem?_eq_getElem within, ?_⟩
  unfold report
  rw [List.getElem?_eq_getElem within]

structure Seated (heldOut : String) (picks : List Int) (outcomes : List (String × Outcome))
    (b : Ballot) (seats : List Entry) : Prop where
  counts : Counts heldOut outcomes b
  perm : seats.Perm (b.evict heldOut picks).kept
  order : seats.Pairwise (Ahead (b.evict heldOut picks).kept)
  result : (aggregate heldOut picks outcomes).result =
    .ok (report (b.evict heldOut picks) (faults outcomes) seats)
  asked : (aggregate heldOut picks outcomes).asked = (b.evict heldOut picks).asked
  picks : (aggregate heldOut picks outcomes).picks = (b.evict heldOut picks).picks

theorem keptSubset {heldOut outcomes b} (counts : Counts heldOut outcomes b) (picks : List Int) :
    (b.evict heldOut picks).kept ⊆ entries outcomes := by
  intro entry member
  exact ((evictPerm heldOut b picks).trans counts.perm).subset (List.mem_append_left _ member)

theorem aggregateCounted {heldOut outcomes b} (counted : ballot heldOut outcomes = .ok b)
    (picks : List Int) :
    (aggregate heldOut picks outcomes).result =
        (sort (b.evict heldOut picks).kept).map (report (b.evict heldOut picks) b.faults) ∧
      (aggregate heldOut picks outcomes).asked = (b.evict heldOut picks).asked ∧
      (aggregate heldOut picks outcomes).picks = (b.evict heldOut picks).picks := by
  simp only [aggregate, counted, and_self]

theorem aggregateSeated (heldOut : String) (picks : List Int) {outcomes}
    (distinct : Distinct outcomes) (finite : FinitePrices outcomes) :
    ∃ b seats, Seated heldOut picks outcomes b seats := by
  obtain ⟨b, counted, counts⟩ := ballotCounts heldOut distinct finite.priced
  have kept : Finite (b.evict heldOut picks).kept := fun entry member =>
    finite.entries entry (keptSubset counts picks member)
  obtain ⟨result, asked, left⟩ := aggregateCounted counted picks
  refine ⟨b, (b.evict heldOut picks).kept.insertionSort NotAbove, counts,
    List.perm_insertionSort NotAbove _, insertionSortAhead _, ?_, asked, left⟩
  rw [result, sortFinite kept, counts.faults]
  rfl

namespace Seated
variable {heldOut : String} {picks : List Int} {outcomes : List (String × Outcome)} {b : Ballot}
  {seats : List Entry}

theorem counted (h : Seated heldOut picks outcomes b seats) (distinct : Distinct outcomes)
    (priced : Priced outcomes) : ballot heldOut outcomes = .ok b := by
  obtain ⟨own, counted, counts⟩ := ballotCounts heldOut distinct priced
  rwa [counts.unique h.counts] at counted

theorem ascending (h : Seated heldOut picks outcomes b seats) :
    seats.Pairwise fun a c => a.2.value ≤ c.2.value := h.order.imp Ahead.le

theorem total (h : Seated heldOut picks outcomes b seats) :
    (seats ++ (b.evict heldOut picks).evicted.toList).Perm (entries outcomes) :=
  ((h.perm.append_right _).trans (evictPerm heldOut b picks)).trans h.counts.perm

theorem subset (h : Seated heldOut picks outcomes b seats) : seats ⊆ entries outcomes :=
  fun _ member => h.total.subset (List.mem_append_left _ member)

theorem odd (h : Seated heldOut picks outcomes b seats) (priced : Priced outcomes)
    (positive : 0 < quoteCount outcomes) :
    seats.length % 2 = 1 ∧ seats.length ≤ quoteCount outcomes ∧
      quoteCount outcomes ≤ seats.length + 1 := by
  rw [← h.counts.size priced] at positive ⊢
  rw [h.perm.length_eq]
  exact evictKeptOdd heldOut picks positive

theorem empty (h : Seated heldOut picks outcomes b seats) (priced : Priced outcomes)
    (none : quoteCount outcomes = 0) : seats = [] := by
  have total := h.total.length_eq
  rw [List.length_append, entriesLength priced, none] at total
  exact List.eq_nil_of_length_eq_zero (by omega)

theorem median (h : Seated heldOut picks outcomes b seats) (priced : Priced outcomes)
    (positive : 0 < quoteCount outcomes) :
    ∃ median, seats[seats.length / 2]? = some median ∧
      report (b.evict heldOut picks) (faults outcomes) seats =
        ⟨some median.2, ⟨none, (faults outcomes).map (·.1),
          some ⟨seats.map (·.1), (b.evict heldOut picks).evicted.map (·.1), median.1⟩⟩,
          faults outcomes⟩ := by
  have odd := (h.odd priced positive).1
  exact reportSeats _ _ (by omega)

theorem settled (h : Seated heldOut picks outcomes b seats) (priced : Priced outcomes)
    (positive : 0 < quoteCount outcomes) :
    ∃ median, seats[seats.length / 2]? = some median ∧
      (aggregate heldOut picks outcomes).result =
        .ok ⟨some median.2, ⟨none, (faults outcomes).map (·.1),
          some ⟨seats.map (·.1), (b.evict heldOut picks).evicted.map (·.1), median.1⟩⟩,
          faults outcomes⟩ := by
  obtain ⟨median, middle, form⟩ := h.median priced positive
  exact ⟨median, middle, by rw [h.result, form]⟩

end Seated

end QuorumRate.Quorum
