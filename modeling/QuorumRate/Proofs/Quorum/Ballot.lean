import Mathlib.Data.List.Perm.Basic
import Mathlib.Tactic.SplitIfs
import QuorumRate.Quorum

/-! What a ballot takes from its outcomes, and what the eviction does to it. Nothing here looks at
the size of a price: names and positions alone decide who has to go. -/
namespace QuorumRate.Quorum

def entryOf? : String × Outcome → Option Entry
  | (name, .ok quote) => quote.price.toOption.map (name, ·)
  | (_, .error _) => none

def faultOf? : String × Outcome → Option (String × Venue.Fault)
  | (name, .error fault) => some (name, fault)
  | (_, .ok _) => none

def entries (outcomes : List (String × Outcome)) : List Entry := outcomes.filterMap entryOf?

def faults (outcomes : List (String × Outcome)) : List (String × Venue.Fault) :=
  outcomes.filterMap faultOf?

def isQuote (o : String × Outcome) : Bool := o.2.isOk

def quoteCount (outcomes : List (String × Outcome)) : Nat := outcomes.countP isQuote

def Distinct (outcomes : List (String × Outcome)) : Prop := (outcomes.map (·.1)).Nodup

def Priced (outcomes : List (String × Outcome)) : Prop :=
  ∀ name quote, (name, .ok quote) ∈ outcomes → ∃ price, quote.price = .ok price

theorem Distinct.tail {o outcomes} (h : Distinct (o :: outcomes)) : Distinct outcomes :=
  (List.nodup_cons.mp h).2

theorem Distinct.notMem {o outcomes} (h : Distinct (o :: outcomes)) : o.1 ∉ outcomes.map (·.1) :=
  (List.nodup_cons.mp h).1

theorem Priced.tail {o outcomes} (h : Priced (o :: outcomes)) : Priced outcomes :=
  fun name quote member => h name quote (List.mem_cons_of_mem o member)

theorem entriesFault (name fault outcomes) :
    entries ((name, .error fault) :: outcomes) = entries outcomes := rfl

theorem entriesQuote {name quote price} (outcomes) (priced : quote.price = .ok price) :
    entries ((name, .ok quote) :: outcomes) = (name, price) :: entries outcomes := by
  simp [entries, entryOf?, priced, Except.toOption]

theorem quoteCountFault (name fault outcomes) :
    quoteCount ((name, .error fault) :: outcomes) = quoteCount outcomes :=
  List.countP_cons_of_neg (by simp [isQuote, Except.isOk, Except.toBool])

theorem quoteCountQuote (name quote outcomes) :
    quoteCount ((name, .ok quote) :: outcomes) = quoteCount outcomes + 1 :=
  List.countP_cons_of_pos rfl

theorem memEntries {outcomes entry} :
    entry ∈ entries outcomes ↔
      ∃ quote, (entry.1, .ok quote) ∈ outcomes ∧ quote.price = .ok entry.2 := by
  obtain ⟨name, price⟩ := entry
  simp only [entries, List.mem_filterMap]
  constructor
  · rintro ⟨⟨venue, outcome⟩, member, found⟩
    cases outcome with
    | error fault => contradiction
    | ok quote =>
      cases priced : quote.price with
      | error signal => simp [entryOf?, priced, Except.toOption] at found
      | ok value =>
        simp only [entryOf?, priced, Except.toOption, Option.map_some, Option.some.injEq,
          Prod.mk.injEq] at found
        obtain ⟨rfl, rfl⟩ := found
        exact ⟨quote, member, priced⟩
  · rintro ⟨quote, member, priced⟩
    exact ⟨_, member, by simp [entryOf?, priced, Except.toOption]⟩

theorem entriesLength {outcomes} (priced : Priced outcomes) :
    (entries outcomes).length = quoteCount outcomes := by
  induction outcomes with
  | nil => rfl
  | cons o rest ih =>
    obtain ⟨name, outcome⟩ := o
    have tail := ih priced.tail
    cases outcome with
    | error fault => rw [entriesFault, quoteCountFault, tail]
    | ok quote =>
      obtain ⟨price, found⟩ := priced name quote List.mem_cons_self
      rw [entriesQuote rest found, quoteCountQuote, List.length_cons, tail]

theorem entriesFaultsPerm {outcomes} (priced : Priced outcomes) :
    ((entries outcomes).map (·.1) ++ (faults outcomes).map (·.1)).Perm (outcomes.map (·.1)) := by
  induction outcomes with
  | nil => exact .nil
  | cons o rest ih =>
    obtain ⟨name, outcome⟩ := o
    have tail := ih priced.tail
    cases outcome with
    | error fault => exact List.perm_middle.trans (tail.cons name)
    | ok quote =>
      obtain ⟨price, found⟩ := priced name quote List.mem_cons_self
      rw [entriesQuote rest found]
      exact tail.cons name

theorem entriesSublist {outcomes} (priced : Priced outcomes) :
    ((entries outcomes).map (·.1)).Sublist (outcomes.map (·.1)) := by
  induction outcomes with
  | nil => exact .slnil
  | cons o rest ih =>
    obtain ⟨name, outcome⟩ := o
    have tail := ih priced.tail
    cases outcome with
    | error fault => exact tail.cons name
    | ok quote =>
      obtain ⟨price, found⟩ := priced name quote List.mem_cons_self
      rw [entriesQuote rest found]
      exact tail.cons_cons name

/-! The ballot: the held-out price is set apart, all else stays in order. -/

def Ballot.last (heldOut : String) (b : Ballot) : List Entry := b.heldOut.toList.map (heldOut, ·)

theorem lastAtMostOne (b : Ballot) (heldOut : String) : (b.last heldOut).length ≤ 1 := by
  unfold Ballot.last
  cases b.heldOut <;> simp

structure Counts (heldOut : String) (outcomes : List (String × Outcome)) (b : Ballot) : Prop where
  candidates : b.candidates = (entries outcomes).filter (·.1 ≠ heldOut)
  last : b.last heldOut = (entries outcomes).filter (·.1 = heldOut)
  faults : b.faults = faults outcomes

theorem notHeldOut {heldOut : String} {outcomes} (priced : Priced outcomes)
    (absent : heldOut ∉ outcomes.map (·.1)) : (entries outcomes).filter (·.1 = heldOut) = [] := by
  rw [List.filter_eq_nil_iff]
  intro entry member same
  have present := (entriesSublist priced).subset (List.mem_map_of_mem member)
  rw [decide_eq_true_iff.mp same] at present
  exact absent present

theorem ballotCounts (heldOut : String) {outcomes} (distinct : Distinct outcomes)
    (priced : Priced outcomes) :
    ∃ b, ballot heldOut outcomes = .ok b ∧ Counts heldOut outcomes b := by
  induction outcomes with
  | nil => exact ⟨_, rfl, rfl, rfl, rfl⟩
  | cons o rest ih =>
    obtain ⟨name, outcome⟩ := o
    obtain ⟨b, counted, counts⟩ := ih distinct.tail priced.tail
    cases outcome with
    | error fault =>
      refine
        ⟨{ b with faults := (name, fault) :: b.faults }, ?_, counts.candidates, counts.last, ?_⟩
      · rw [ballot, counted]
        rfl
      · exact congrArg ((name, fault) :: ·) counts.faults
    | ok quote =>
      obtain ⟨price, found⟩ := priced name quote List.mem_cons_self
      by_cases same : name = heldOut
      · subst same
        have none : b.heldOut = none := by
          have empty := counts.last.trans (notHeldOut priced.tail distinct.notMem)
          simpa [Ballot.last] using empty
        refine ⟨{ b with heldOut := some price }, ?_, ?_, ?_, counts.faults⟩
        · rw [ballot, found, counted]
          simp [none, bind, Except.bind, pure, Except.pure]
        · rw [entriesQuote rest found]
          simpa using counts.candidates
        · rw [entriesQuote rest found]
          simp [Ballot.last, notHeldOut priced.tail distinct.notMem]
      · refine ⟨{ b with candidates := (name, price) :: b.candidates }, ?_, ?_, ?_, counts.faults⟩
        · rw [ballot, found, counted]
          simp [same, bind, Except.bind, pure, Except.pure]
        · rw [entriesQuote rest found]
          simpa [same] using counts.candidates
        · rw [entriesQuote rest found]
          simpa [same, Ballot.last] using counts.last

theorem Counts.unique {heldOut outcomes b b'} (counts : Counts heldOut outcomes b)
    (counts' : Counts heldOut outcomes b') : b = b' := by
  obtain ⟨candidates, last, faults⟩ := counts
  obtain ⟨candidates', last', faults'⟩ := counts'
  have held : b.heldOut = b'.heldOut := by
    have same : b.heldOut.toList = b'.heldOut.toList :=
      (List.map_inj_right fun _ _ pair => (Prod.mk.inj pair).2).mp (last.trans last'.symm)
    simpa only [Option.head?_toList] using congrArg List.head? same
  cases b
  cases b'
  dsimp only at *
  rw [candidates, candidates', held, faults, faults']

theorem Counts.perm {heldOut outcomes b} (counts : Counts heldOut outcomes b) :
    (b.candidates ++ b.last heldOut).Perm (entries outcomes) := by
  rw [counts.candidates, counts.last]
  have split := List.filter_append_perm (fun entry : Entry => decide (entry.1 ≠ heldOut))
    (entries outcomes)
  simpa using split

theorem Ballot.sizeEq (heldOut : String) (b : Ballot) :
    b.size = b.candidates.length + (b.last heldOut).length := by
  simp [Ballot.size, Ballot.last]

theorem Counts.size {heldOut outcomes b} (counts : Counts heldOut outcomes b)
    (priced : Priced outcomes) : b.size = quoteCount outcomes := by
  rw [b.sizeEq heldOut, ← List.length_append, counts.perm.length_eq, entriesLength priced]

/-! The eviction: at most one candidate goes, and an odd number of prices is left. -/

theorem drawLt {n : Nat} (positive : 0 < n) (picks : List Int) : (draw n picks).1 < n := by
  cases picks with
  | nil => exact positive
  | cons pick rest =>
    have nonneg := Int.emod_nonneg pick (b := n) (by omega)
    have below := Int.emod_lt_of_pos pick (b := n) (by omega)
    change (pick % n).toNat < n
    omega

theorem drawRest (n : Nat) (picks : List Int) : (draw n picks).2 = picks.tail := by
  cases picks <;> rfl

theorem evictOdd (heldOut : String) {b : Ballot} (picks : List Int) (odd : b.size % 2 = 1) :
    b.evict heldOut picks = ⟨none, b.candidates ++ b.last heldOut, [], picks⟩ := by
  unfold Ballot.evict
  rw [if_neg (by omega)]
  rfl

theorem candidatesOfEven {b : Ballot} (even : b.size % 2 = 0) (positive : 0 < b.size) :
    b.candidates ≠ [] := by
  intro empty
  have atMostOne : b.heldOut.toList.length ≤ 1 := by cases b.heldOut <;> simp
  simp only [Ballot.size, empty, List.length_nil] at even positive
  omega

theorem evictEven (heldOut : String) {b : Ballot} (picks : List Int) (even : b.size % 2 = 0)
    (positive : 0 < b.size) :
    ∃ entry, b.candidates[(draw b.candidates.length picks).1]? = some entry ∧
      b.evict heldOut picks =
        ⟨some entry, b.candidates.eraseIdx (draw b.candidates.length picks).1 ++ b.last heldOut,
          [b.candidates.length], picks.tail⟩ := by
  have candidates := candidatesOfEven even positive
  have drawn := drawLt (List.length_pos_of_ne_nil candidates) picks
  refine ⟨b.candidates[(draw b.candidates.length picks).1], List.getElem?_eq_getElem drawn, ?_⟩
  unfold Ballot.evict
  rw [if_pos ⟨even, candidates⟩]
  dsimp only
  rw [List.getElem?_eq_getElem drawn, drawRest]
  rfl

theorem evictEmpty (heldOut : String) {b : Ballot} (picks : List Int) (empty : b.size = 0) :
    b.evict heldOut picks = ⟨none, [], [], picks⟩ := by
  have bare : b.candidates = [] ∧ b.heldOut = none := by
    simpa [Ballot.size] using empty
  unfold Ballot.evict
  rw [if_neg (by simp [bare.1])]
  simp [bare.1, bare.2]

theorem sizeCases (b : Ballot) :
    b.size = 0 ∨ b.size % 2 = 1 ∨ b.size % 2 = 0 ∧ 0 < b.size := by
  omega

theorem evictKept (heldOut : String) (b : Ballot) (picks : List Int) :
    ∃ stay, (b.evict heldOut picks).kept = stay ++ b.last heldOut ∧ stay.Sublist b.candidates := by
  rcases sizeCases b with empty | odd | ⟨even, positive⟩
  · rw [evictEmpty heldOut picks empty]
    have bare : b.last heldOut = [] := by
      have none : b.candidates = [] ∧ b.heldOut = none := by simpa [Ballot.size] using empty
      simp [Ballot.last, none.2]
    exact ⟨[], by rw [bare]; rfl, List.nil_sublist _⟩
  · rw [evictOdd heldOut picks odd]
    exact ⟨_, rfl, List.Sublist.refl _⟩
  · obtain ⟨entry, _, evicted⟩ := evictEven heldOut picks even positive
    rw [evicted]
    exact ⟨_, rfl, List.eraseIdx_sublist _ _⟩

theorem evictPerm (heldOut : String) (b : Ballot) (picks : List Int) :
    ((b.evict heldOut picks).kept ++ (b.evict heldOut picks).evicted.toList).Perm
      (b.candidates ++ b.last heldOut) := by
  rcases sizeCases b with empty | odd | ⟨even, positive⟩
  · have none : (b.candidates ++ b.last heldOut).length = 0 := by
      rw [List.length_append, ← b.sizeEq, empty]
    rw [evictEmpty heldOut picks empty, List.eq_nil_of_length_eq_zero none]
    exact .nil
  · rw [evictOdd heldOut picks odd]
    simp
  · obtain ⟨entry, found, evicted⟩ := evictEven heldOut picks even positive
    obtain ⟨within, rfl⟩ := List.getElem?_eq_some_iff.mp found
    rw [evicted]
    refine List.perm_append_comm.trans ?_
    exact (List.getElem_cons_eraseIdx_perm within).append_right _

theorem evictOnce {heldOut outcomes b} (counts : Counts heldOut outcomes b)
    (distinct : Distinct outcomes) (priced : Priced outcomes) (picks : List Int) :
    (((b.evict heldOut picks).kept ++ (b.evict heldOut picks).evicted.toList).map (·.1)).Nodup :=
  (((evictPerm heldOut b picks).trans counts.perm).map (·.1)).nodup_iff.mpr
    (distinct.sublist (entriesSublist priced))

theorem keptApart {heldOut outcomes b} (counts : Counts heldOut outcomes b)
    (distinct : Distinct outcomes) (priced : Priced outcomes) (picks : List Int) {entry : Entry}
    (member : entry ∈ (b.evict heldOut picks).kept) :
    (b.evict heldOut picks).evicted.map (·.1) ≠ some entry.1 := by
  intro same
  obtain ⟨gone, evicted, name⟩ := Option.map_eq_some_iff.mp same
  have once := evictOnce counts distinct priced picks
  rw [List.map_append, evicted] at once
  have apart := (List.nodup_append.mp once).2.2
  exact apart _ (List.mem_map_of_mem member) _ (List.mem_singleton_self _) name.symm

theorem keptOnce {heldOut outcomes b} (counts : Counts heldOut outcomes b)
    (distinct : Distinct outcomes) (priced : Priced outcomes) (picks : List Int) (name : String) :
    (b.evict heldOut picks).kept.countP (fun entry => entry.1 = name) ≤ 1 := by
  have once := evictOnce counts distinct priced picks
  rw [List.map_append] at once
  have single := List.nodup_iff_count.mp (List.nodup_append.mp once).1 name
  rw [List.count, List.countP_map] at single
  simpa only [Function.comp_def, beq_eq_decide] using single

theorem evictKeptOdd (heldOut : String) {b : Ballot} (picks : List Int) (positive : 0 < b.size) :
    (b.evict heldOut picks).kept.length % 2 = 1 ∧
      (b.evict heldOut picks).kept.length ≤ b.size ∧
      b.size ≤ (b.evict heldOut picks).kept.length + 1 := by
  have total := (evictPerm heldOut b picks).length_eq
  rw [List.length_append, List.length_append, ← b.sizeEq] at total
  rcases sizeCases b with empty | odd | ⟨even, _⟩
  · omega
  · rw [evictOdd heldOut picks odd] at total ⊢
    dsimp only [Option.toList_none, List.length_nil] at total ⊢
    omega
  · obtain ⟨entry, _, evicted⟩ := evictEven heldOut picks even positive
    rw [evicted] at total ⊢
    dsimp only [Option.toList_some, List.length_singleton] at total ⊢
    omega

def Ballot.NeedsLot (b : Ballot) : Prop := b.size % 2 = 0 ∧ 0 < b.size
instance (b : Ballot) : Decidable b.NeedsLot := by unfold Ballot.NeedsLot; infer_instance

theorem evictLot (heldOut : String) (b : Ballot) (picks : List Int) :
    (b.evict heldOut picks).asked = (if b.NeedsLot then [b.candidates.length] else []) ∧
      (b.evict heldOut picks).picks = picks.drop (b.evict heldOut picks).asked.length ∧
      (b.evict heldOut picks).evicted =
        (if b.NeedsLot then b.candidates[(draw b.candidates.length picks).1]? else none) := by
  rcases sizeCases b with empty | odd | ⟨even, positive⟩
  · have rest : ¬ b.NeedsLot := by unfold Ballot.NeedsLot; omega
    rw [evictEmpty heldOut picks empty, if_neg rest, if_neg rest]
    exact ⟨rfl, rfl, rfl⟩
  · have rest : ¬ b.NeedsLot := by unfold Ballot.NeedsLot; omega
    rw [evictOdd heldOut picks odd, if_neg rest, if_neg rest]
    exact ⟨rfl, rfl, rfl⟩
  · have lot : b.NeedsLot := ⟨even, positive⟩
    obtain ⟨entry, found, evicted⟩ := evictEven heldOut picks even positive
    rw [evicted, if_pos lot, if_pos lot, found]
    exact ⟨rfl, by simp, rfl⟩

end QuorumRate.Quorum
