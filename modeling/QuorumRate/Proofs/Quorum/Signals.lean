import QuorumRate.Proofs.Quorum.Accounting

/-! When an aggregation gives a signal in the place of a report. A quote without a price ends it
before any lot is drawn. After that only the sorting can fail: it looks at every price as long as
there are two of them, so a NaN among several is always met, and one that stands alone never. -/
namespace QuorumRate.Quorum

/-! Sorting prices that may be NaNs. -/

def Incomparable (l : List Entry) : Prop := 2 ≤ l.length ∧ ∃ entry ∈ l, entry.2.isNaN = true

theorem Incomparable.perm {l l' : List Entry} (perm : l.Perm l') :
    Incomparable l ↔ Incomparable l' := by
  unfold Incomparable
  simp only [perm.length_eq, perm.mem_iff]

theorem insertUnordered {entry first : Entry} (rest : List Entry)
    (nan : first.2.isNaN = true ∨ entry.2.isNaN = true) :
    insert entry (first :: rest) = .error .invalidOperation := by
  rw [insert, Decimal.lessUnordered nan]
  rfl

theorem insertOrdered {entry : Entry} {l : List Entry} (head : entry.2.isNaN = false)
    (ordered : ∀ e ∈ l, e.2.isNaN = false) :
    ∃ sorted, insert entry l = .ok sorted ∧ sorted.Perm (entry :: l) := by
  induction l with
  | nil => exact ⟨_, rfl, .refl _⟩
  | cons first rest ih =>
    obtain ⟨below, compared⟩ := Decimal.lessOrdered (ordered first List.mem_cons_self) head
    obtain ⟨sorted, inserted, perm⟩ := ih fun e member => ordered e (List.mem_cons_of_mem _ member)
    rw [insert, compared, inserted]
    cases below with
    | true => exact ⟨_, rfl, (perm.cons first).trans (.swap entry first rest)⟩
    | false => exact ⟨_, rfl, .refl _⟩

theorem sortOrdered {l : List Entry} (ordered : ∀ e ∈ l, e.2.isNaN = false) :
    ∃ sorted, sort l = .ok sorted ∧ sorted.Perm l := by
  induction l with
  | nil => exact ⟨_, rfl, .refl _⟩
  | cons entry rest ih =>
    obtain ⟨tail, sorted, perm⟩ := ih fun e member => ordered e (List.mem_cons_of_mem _ member)
    obtain ⟨all, inserted, whole⟩ := insertOrdered (ordered entry List.mem_cons_self)
      fun e member => ordered e (List.mem_cons_of_mem _ (perm.subset member))
    rw [sort, sorted]
    exact ⟨all, inserted, whole.trans (perm.cons entry)⟩

theorem sortComparable {l : List Entry} (comparable : ¬ Incomparable l) :
    ∃ sorted, sort l = .ok sorted ∧ sorted.Perm l := by
  match l with
  | [] => exact ⟨_, rfl, .refl _⟩
  | [entry] => exact ⟨_, rfl, .refl _⟩
  | first :: second :: rest =>
    apply sortOrdered
    intro entry member
    by_contra nan
    exact comparable ⟨by simp, entry, member, by simpa using nan⟩

theorem sortIncomparable {l : List Entry} (incomparable : Incomparable l) :
    sort l = .error .invalidOperation := by
  induction l with
  | nil => exact absurd incomparable.1 (by simp)
  | cons entry rest ih =>
    rw [sort]
    by_cases earlier : Incomparable rest
    · rw [ih earlier]
      rfl
    obtain ⟨several, odd, member, nan⟩ := incomparable
    obtain ⟨sorted, found, perm⟩ := sortComparable earlier
    obtain ⟨first, behind, rfl⟩ := List.exists_cons_of_length_pos (l := sorted) (by
      rw [perm.length_eq]
      exact Nat.le_of_succ_le_succ several)
    rw [found]
    apply insertUnordered
    rcases List.mem_cons.mp member with rfl | within
    · exact .inr nan
    · have alone : (first :: behind).length < 2 := by
        by_contra many
        exact earlier ⟨perm.length_eq ▸ not_lt.mp many, odd, within, nan⟩
      have none : behind = [] := List.eq_nil_of_length_eq_zero (by
        rw [List.length_cons] at alone
        omega)
      have first := perm.mem_iff.mpr within
      rw [none, List.mem_singleton] at first
      exact .inl (first ▸ nan)

/-! Which quotes have a price. -/

def Breaks (outcomes : List (String × Outcome)) (signal : Decimal.Signal) : Prop :=
  ∃ before name quote after, outcomes = before ++ (name, .ok quote) :: after ∧
    Priced before ∧ quote.price = .error signal

theorem Breaks.unpriced {outcomes signal} (breaks : Breaks outcomes signal) :
    ¬ Priced outcomes := by
  obtain ⟨before, name, quote, after, rfl, _, broken⟩ := breaks
  intro priced
  obtain ⟨price, found⟩ := priced name quote (by simp)
  rw [broken] at found
  contradiction

theorem Priced.cons {o outcomes}
    (head : ∀ quote, o.2 = .ok quote → ∃ price, quote.price = .ok price)
    (tail : Priced outcomes) : Priced (o :: outcomes) := by
  intro name quote member
  cases member with
  | head => exact head quote rfl
  | tail _ later => exact tail name quote later

theorem Breaks.cons {o outcomes signal}
    (head : ∀ quote, o.2 = .ok quote → ∃ price, quote.price = .ok price)
    (breaks : Breaks outcomes signal) : Breaks (o :: outcomes) signal := by
  obtain ⟨before, name, quote, after, rfl, priced, broken⟩ := breaks
  exact ⟨o :: before, name, quote, after, rfl, priced.cons head, broken⟩

theorem pricedOrBreaks (outcomes : List (String × Outcome)) :
    Priced outcomes ∨ ∃ signal, Breaks outcomes signal := by
  induction outcomes with
  | nil => exact .inl nofun
  | cons o rest ih =>
    obtain ⟨name, outcome⟩ := o
    cases outcome with
    | error fault => exact ih.imp (Priced.cons nofun) (Exists.imp fun _ => Breaks.cons nofun)
    | ok quote =>
      cases found : quote.price with
      | error signal => exact .inr ⟨signal, [], name, quote, rest, rfl, nofun, found⟩
      | ok price =>
        have head (own : Quote) (same : (.ok quote : Outcome) = .ok own) :
            ∃ price, own.price = .ok price := by
          cases same
          exact ⟨price, found⟩
        exact ih.imp (Priced.cons head) (Exists.imp fun _ => Breaks.cons head)

theorem ballotBreaks (heldOut : String) {outcomes signal} (breaks : Breaks outcomes signal) :
    ballot heldOut outcomes = .error signal := by
  obtain ⟨before, name, quote, after, rfl, priced, broken⟩ := breaks
  induction before with
  | nil =>
    rw [List.nil_append, ballot, broken]
    rfl
  | cons o rest ih =>
    obtain ⟨own, outcome⟩ := o
    cases outcome with
    | error fault =>
      rw [List.cons_append, ballot, ih priced.tail]
      rfl
    | ok earlier =>
      obtain ⟨price, found⟩ := priced own earlier List.mem_cons_self
      rw [List.cons_append, ballot, found, ih priced.tail]
      rfl

theorem Breaks.unique {outcomes signal other} (breaks : Breaks outcomes signal)
    (again : Breaks outcomes other) : signal = other :=
  Except.error.inj ((ballotBreaks "" breaks).symm.trans (ballotBreaks "" again))

theorem aggregateBreaks (heldOut : String) (picks : List Int) {outcomes signal}
    (breaks : Breaks outcomes signal) :
    aggregate heldOut picks outcomes = ⟨.error signal, [], picks, []⟩ := by
  simp only [aggregate, ballotBreaks heldOut breaks]

/-! The prices that are left. -/

def loser (heldOut : String) (picks : List Int) (outcomes : List (String × Outcome)) :
    Option String :=
  if NeedsLot outcomes then
    (candidateNames heldOut outcomes)[
      (draw (quoteCount outcomes - heldOutQuotes heldOut outcomes) picks).1]?
  else none

def finalEntries (heldOut : String) (picks : List Int) (outcomes : List (String × Outcome)) :
    List Entry :=
  (entries outcomes).filter fun entry => loser heldOut picks outcomes ≠ some entry.1

section
variable {heldOut : String} {outcomes : List (String × Outcome)} {b : Ballot}
  (counts : Counts heldOut outcomes b) (priced : Priced outcomes) (picks : List Int)
include counts priced

theorem Counts.loser :
    (b.evict heldOut picks).evicted.map (·.1) = loser heldOut picks outcomes := by
  obtain ⟨_, _, evicted⟩ := evictLot heldOut b picks
  simp only [counts.needsLot priced, counts.candidatesLength priced] at evicted
  rw [evicted, Quorum.loser, ← counts.candidateNames priced]
  split
  · exact List.getElem?_map.symm
  · rfl

theorem Counts.final (distinct : Distinct outcomes) :
    (b.evict heldOut picks).kept.Perm (finalEntries heldOut picks outcomes) := by
  have all := ((evictPerm heldOut b picks).trans counts.perm).filter fun entry =>
    decide (Quorum.loser heldOut picks outcomes ≠ some entry.1)
  have stay : ∀ entry ∈ (b.evict heldOut picks).kept,
      decide (Quorum.loser heldOut picks outcomes ≠ some entry.1) = true := by
    intro entry member
    rw [← counts.loser priced picks]
    exact decide_eq_true (keptApart counts distinct priced picks member)
  have go : ∀ entry ∈ (b.evict heldOut picks).evicted.toList,
      ¬ decide (Quorum.loser heldOut picks outcomes ≠ some entry.1) = true := by
    intro entry member
    rw [← counts.loser priced picks, Option.mem_toList.mp member]
    simp
  rwa [List.filter_append, List.filter_eq_self.mpr stay, List.filter_eq_nil_iff.mpr go,
    List.append_nil] at all

end

theorem keptPositive (heldOut : String) (b : Ballot) (picks : List Int) :
    0 < (b.evict heldOut picks).kept.length ↔ 0 < b.size := by
  rcases Nat.eq_zero_or_pos b.size with none | positive
  · rw [evictEmpty heldOut picks none, none]
    rfl
  · have odd := (evictKeptOdd heldOut picks positive).1
    omega

theorem reportSuccess (drawn : Drawn) (faults : List (String × Venue.Fault)) (seats : List Entry) :
    (report drawn faults seats).isSuccess = true ↔ 0 < seats.length := by
  rcases Nat.eq_zero_or_pos seats.length with none | positive
  · rw [List.eq_nil_of_length_eq_zero none]
    exact iff_of_false nofun (lt_irrefl 0)
  · obtain ⟨median, _, form⟩ := reportSeats drawn faults positive
    rw [form]
    exact iff_of_true rfl positive

structure Signals (heldOut : String) (picks : List Int) (outcomes : List (String × Outcome))
    (run : Aggregation) : Prop where
  raises : ∀ signal, run.result = .error signal ↔ Breaks outcomes signal ∨
    Priced outcomes ∧ Incomparable (finalEntries heldOut picks outcomes) ∧
      signal = .invalidOperation
  undrawn : ∀ signal, Breaks outcomes signal → run.asked = [] ∧ run.picks = picks
  drawn : Priced outcomes → run.picks = picks.drop run.asked.length ∧ run.asked =
    if NeedsLot outcomes then [quoteCount outcomes - heldOutQuotes heldOut outcomes] else []
  returns : Priced outcomes → ¬ Incomparable (finalEntries heldOut picks outcomes) →
    ∃ r, run.result = .ok r ∧ (r.isSuccess = true ↔ 0 < quoteCount outcomes)

theorem aggregateSignals (heldOut : String) (picks : List Int)
    {outcomes : List (String × Outcome)} (distinct : Distinct outcomes) :
    Signals heldOut picks outcomes (aggregate heldOut picks outcomes) := by
  rcases pricedOrBreaks outcomes with priced | ⟨signal, breaks⟩
  · have whole : ∀ signal, ¬ Breaks outcomes signal := fun _ breaks => breaks.unpriced priced
    obtain ⟨b, counted, counts⟩ := ballotCounts heldOut distinct priced
    obtain ⟨result, asked, left⟩ := aggregateCounted counted picks
    have final := Incomparable.perm (counts.final priced picks distinct)
    constructor
    case raises =>
      intro signal
      rw [result]
      by_cases met : Incomparable (finalEntries heldOut picks outcomes)
      · rw [sortIncomparable (final.mpr met)]
        simp [Except.map, whole, priced, met, eq_comm]
      · obtain ⟨sorted, found, _⟩ := sortComparable (mt final.mp met)
        rw [found]
        simp [Except.map, whole, met]
    case undrawn => exact fun signal breaks => absurd breaks (whole signal)
    case drawn =>
      intro _
      obtain ⟨lot, rest, _⟩ := evictLot heldOut b picks
      simp only [counts.needsLot priced, counts.candidatesLength priced] at lot
      rw [left, asked]
      exact ⟨rest, lot⟩
    case returns =>
      intro _ unmet
      obtain ⟨sorted, found, perm⟩ := sortComparable (mt final.mp unmet)
      rw [result, found]
      refine ⟨_, rfl, ?_⟩
      rw [reportSuccess, perm.length_eq, keptPositive, counts.size priced]
  · have unpriced := breaks.unpriced
    rw [aggregateBreaks heldOut picks breaks]
    constructor
    case raises =>
      intro other
      constructor
      · intro same
        exact .inl (Except.error.inj same ▸ breaks)
      · rintro (again | ⟨priced, _⟩)
        · exact congrArg Except.error (breaks.unique again)
        · exact absurd priced unpriced
    case undrawn => exact fun _ _ => ⟨rfl, rfl⟩
    case drawn => exact fun priced => absurd priced unpriced
    case returns => exact fun priced => absurd priced unpriced

def unorderedQuotes : List (String × Outcome) :=
  [("alpha", .ok ⟨.finite false 10 0, .finite false 12 0⟩),
   ("beta", .error (.timeout "late")),
   ("gemini", .ok ⟨.finite false 9 0, .finite false 11 0⟩),
   ("kappa", .ok ⟨.nan false false 7, .finite false 10 0⟩),
   ("mu", .ok ⟨.infinity false, .finite false 3 0⟩)]

theorem unorderedQuotesSignals :
    Distinct unorderedQuotes ∧
      Signals "gemini" [0] unorderedQuotes (aggregate "gemini" [0] unorderedQuotes) := by
  have distinct : Distinct unorderedQuotes := by
    unfold Distinct
    decide
  exact ⟨distinct, aggregateSignals "gemini" [0] distinct⟩

example : (aggregate "gemini" [0] unorderedQuotes).result = .error .invalidOperation := rfl

end QuorumRate.Quorum
