import Mathlib.Data.Set.Finite.Lemmas
import Mathlib.Data.Set.Finite.List
import Mathlib.Order.Interval.Set.Defs
import QuorumRate.Proofs.Quorum.Seating

/-! The median of an odd quorum: whose price it is, which seat it has, and how far a minority can
move it. The seats are compared by the values of their prices, never by how these are written. -/
namespace QuorumRate.Quorum

/-- Is a venue seated in front of another one with a price of the same value? -/
def Senior (heldOut : String) (venues : List String) (a b : String) : Prop :=
  a ≠ heldOut ∧ (b = heldOut ∨ [a, b].Sublist venues)

theorem keptSenior {heldOut outcomes b} (counts : Counts heldOut outcomes b)
    (priced : Priced outcomes) (picks : List Int) {first second : Entry}
    (before : [first, second].Sublist (b.evict heldOut picks).kept) :
    Senior heldOut (outcomes.map (·.1)) first.1 second.1 := by
  obtain ⟨stay, kept, stays⟩ := evictKept heldOut b picks
  have candidate : ∀ entry ∈ stay, entry.1 ≠ heldOut := by
    intro entry member
    have among := stays.subset member
    rw [counts.candidates, List.mem_filter] at among
    exact of_decide_eq_true among.2
  rw [kept, List.sublist_append_iff] at before
  obtain ⟨front, back, split, staying, last⟩ := before
  match front, split, staying with
  | [], split, _ =>
    have pair := last.length_le
    rw [← List.nil_append back, ← split] at pair
    exact absurd (pair.trans (lastAtMostOne b heldOut)) (Nat.not_succ_le_self 1)
  | [_], split, staying =>
    obtain ⟨rfl, rest⟩ := List.cons.inj split
    have held := last.subset (rest ▸ List.mem_singleton_self second)
    rw [counts.last, List.mem_filter] at held
    exact ⟨candidate first (List.singleton_sublist.mp staying), .inl (of_decide_eq_true held.2)⟩
  | x :: y :: more, split, staying =>
    obtain ⟨rfl, rest⟩ := List.cons.inj split
    obtain ⟨rfl, _⟩ := List.cons.inj rest
    have inOrder : [first, second].Sublist (entries outcomes) := by
      refine List.Sublist.trans ?_ ((staying.trans stays).trans ?_)
      · exact (List.nil_sublist more).cons_cons second |>.cons_cons first
      · rw [counts.candidates]
        exact List.filter_sublist
    refine ⟨candidate first (staying.subset List.mem_cons_self), .inr ?_⟩
    exact (inOrder.map (·.1)).trans (entriesSublist priced)

structure ExactMedian (heldOut : String) (outcomes : List (String × Outcome)) (price : Decimal)
    (seats : Seats) : Prop where
  quoted : ∃ quote, (seats.medianSource, .ok quote) ∈ outcomes ∧ quote.price = .ok price
  seated : seats.medianSource ∈ seats.sources
  final : ∃ final evicted : List Entry,
    final.map (·.1) = seats.sources ∧ evicted.map (·.1) = seats.evicted.toList ∧
      (final ++ evicted).Perm (entries outcomes) ∧
      final[final.length / 2]? = some (seats.medianSource, price) ∧
      2 * final.countP (fun entry => entry.2.value < price.value) < final.length ∧
      2 * final.countP (fun entry => price.value < entry.2.value) < final.length ∧
      final.Pairwise fun a b => a.2.value < b.2.value ∨
        a.2.value = b.2.value ∧ Senior heldOut (outcomes.map (·.1)) a.1 b.1

theorem aggregateMedian (heldOut : String) (picks : List Int)
    {outcomes : List (String × Outcome)} (distinct : Distinct outcomes)
    (finite : FinitePrices outcomes) (positive : 0 < quoteCount outcomes) :
    ∃ r price seats, (aggregate heldOut picks outcomes).result = .ok r ∧
      r.price = some price ∧ r.metadata.seats = some seats ∧
      ExactMedian heldOut outcomes price seats := by
  obtain ⟨b, seats, seated⟩ := aggregateSeated heldOut picks distinct finite
  have priced := finite.priced
  obtain ⟨odd, _, _⟩ := seated.odd priced positive
  obtain ⟨⟨source, price⟩, middle, result⟩ := seated.settled priced positive
  have member := List.mem_of_getElem? middle
  have below := countBelow (fun entry : Entry => entry.2.value) seated.ascending middle
  have above := countAbove (fun entry : Entry => entry.2.value) seated.ascending middle
  dsimp only at below above
  refine ⟨_, price, _, result, rfl, rfl, ?_, ?_, ?_⟩
  · exact memEntries.mp (seated.subset member)
  · exact List.mem_map_of_mem member
  · refine ⟨seats, (b.evict heldOut picks).evicted.toList, rfl, (Option.toList_map ..).symm,
      seated.total, middle, by omega, by omega, ?_⟩
    refine seated.order.imp fun ahead => ahead.imp_right ?_
    exact fun ⟨same, before⟩ => ⟨same, keptSenior seated.counts priced picks before⟩

theorem fourQuotesMedian :
    Distinct fourQuotes ∧ FinitePrices fourQuotes ∧ 0 < quoteCount fourQuotes ∧
      ∃ r price seats, (aggregate "gemini" [5] fourQuotes).result = .ok r ∧
        r.price = some price ∧ r.metadata.seats = some seats ∧
        ExactMedian "gemini" fourQuotes price seats :=
  ⟨fourQuotesDistinct, fourQuotesFinite, by decide,
    aggregateMedian "gemini" [5] fourQuotesDistinct fourQuotesFinite (by decide)⟩

/-! Some of the venues are corrupt: their quotes may be anything, the held-out one's too. -/

def corruptCount (corrupt : String → Bool) (outcomes : List (String × Outcome)) : Nat :=
  outcomes.countP fun o => isQuote o && corrupt o.1

def honestValues (corrupt : String → Bool) (outcomes : List (String × Outcome)) : Set ℚ :=
  {v | ∃ name quote price, (name, .ok quote) ∈ outcomes ∧ corrupt name = false ∧
    quote.price = .ok price ∧ price.value = v}

theorem corruptEntries (corrupt : String → Bool) {outcomes} (priced : Priced outcomes) :
    (entries outcomes).countP (fun entry => corrupt entry.1) = corruptCount corrupt outcomes := by
  induction outcomes with
  | nil => rfl
  | cons o rest ih =>
    obtain ⟨name, outcome⟩ := o
    have tail := ih priced.tail
    unfold corruptCount at tail ⊢
    cases outcome with
    | error fault =>
      rw [entriesFault, List.countP_cons_of_neg (by simp [isQuote, Except.isOk, Except.toBool])]
      exact tail
    | ok quote =>
      obtain ⟨price, found⟩ := priced name quote List.mem_cons_self
      rw [entriesQuote rest found, List.countP_cons, List.countP_cons, tail]
      rfl

theorem honestEntries (corrupt : String → Bool) (outcomes : List (String × Outcome)) :
    honestValues corrupt outcomes = (fun entry : Entry => entry.2.value) ''
      {entry | entry ∈ entries outcomes ∧ corrupt entry.1 = false} := by
  ext v
  constructor
  · rintro ⟨name, quote, price, member, honest, priced, rfl⟩
    exact ⟨(name, price), ⟨memEntries.mpr ⟨quote, member, priced⟩, honest⟩, rfl⟩
  · rintro ⟨entry, ⟨member, honest⟩, rfl⟩
    obtain ⟨quote, present, priced⟩ := memEntries.mp member
    exact ⟨entry.1, quote, entry.2, present, honest, priced, rfl⟩

theorem honestFinite (corrupt : String → Bool) (outcomes : List (String × Outcome)) :
    (honestValues corrupt outcomes).Finite := by
  rw [honestEntries]
  exact ((List.finite_toSet (entries outcomes)).subset fun _ => And.left).image _

theorem existsOnly {α : Type} {p q : α → Bool} {l : List α} (more : l.countP q < l.countP p) :
    ∃ x ∈ l, p x = true ∧ q x = false := by
  by_contra none
  apply Nat.not_le_of_lt more
  apply List.countP_mono_left
  intro x member holds
  by_contra other
  exact none ⟨x, member, holds, Bool.eq_false_of_not_eq_true other⟩

theorem Seated.honestMajority {heldOut picks outcomes b seats} {corrupt : String → Bool}
    (h : Seated heldOut picks outcomes b seats) (priced : Priced outcomes)
    (minority : 2 * corruptCount corrupt outcomes < quoteCount outcomes) :
    seats.length / 2 < seats.countP fun entry => !corrupt entry.1 := by
  have positive : 0 < quoteCount outcomes := by omega
  obtain ⟨odd, _, next⟩ := h.odd priced positive
  have whole := h.total.countP_eq fun entry => corrupt entry.1
  rw [List.countP_append, corruptEntries corrupt priced] at whole
  have split := List.length_eq_countP_add_countP (fun entry : Entry => corrupt entry.1) (l := seats)
  simp only [Bool.not_eq_true, Bool.decide_eq_false] at split
  omega

theorem aggregateHonestRange (heldOut : String) (picks : List Int)
    {outcomes : List (String × Outcome)} (distinct : Distinct outcomes)
    (finite : FinitePrices outcomes) (corrupt : String → Bool)
    (minority : 2 * corruptCount corrupt outcomes < quoteCount outcomes) :
    ∃ r price lowest highest, (aggregate heldOut picks outcomes).result = .ok r ∧
      r.price = some price ∧ IsLeast (honestValues corrupt outcomes) lowest ∧
      IsGreatest (honestValues corrupt outcomes) highest ∧
      price.value ∈ Set.Icc lowest highest := by
  obtain ⟨b, seats, seated⟩ := aggregateSeated heldOut picks distinct finite
  have priced := finite.priced
  have positive : 0 < quoteCount outcomes := by omega
  obtain ⟨odd, _, _⟩ := seated.odd priced positive
  obtain ⟨⟨source, price⟩, middle, result⟩ := seated.settled priced positive
  have honest := seated.honestMajority priced minority
  have half : seats.length - seats.length / 2 ≤ seats.countP fun entry => !corrupt entry.1 := by
    omega
  have below := countBelow (fun entry : Entry => entry.2.value) seated.ascending middle
  have above := countAbove (fun entry : Entry => entry.2.value) seated.ascending middle
  obtain ⟨low, lowSeat, lowHonest, notAbove⟩ :=
    existsOnly ((Nat.lt_sub_of_add_lt above).trans_le half)
  obtain ⟨high, highSeat, highHonest, notBelow⟩ := existsOnly (below.trans_lt honest)
  have range : ∀ entry ∈ seats, (!corrupt entry.1) = true →
      entry.2.value ∈ honestValues corrupt outcomes := by
    intro entry member good
    rw [honestEntries]
    exact ⟨entry, ⟨seated.subset member, by simpa using good⟩, rfl⟩
  have bounded := honestFinite corrupt outcomes
  have some : (honestValues corrupt outcomes).Nonempty := ⟨_, range low lowSeat lowHonest⟩
  obtain ⟨lowest, least, isLeast⟩ := Set.exists_min_image _ id bounded some
  obtain ⟨highest, greatest, isGreatest⟩ := Set.exists_max_image _ id bounded some
  refine ⟨_, price, lowest, highest, result, rfl, ⟨least, isLeast⟩, ⟨greatest, isGreatest⟩, ?_⟩
  constructor
  · calc lowest ≤ low.2.value := isLeast _ (range low lowSeat lowHonest)
      _ ≤ price.value := not_lt.mp (of_decide_eq_false notAbove)
  · calc price.value ≤ high.2.value := not_lt.mp (of_decide_eq_false notBelow)
      _ ≤ highest := isGreatest _ (range high highSeat highHonest)

theorem fourQuotesHonestRange :
    Distinct fourQuotes ∧ FinitePrices fourQuotes ∧
      2 * corruptCount (· = "gemini") fourQuotes < quoteCount fourQuotes ∧
      ∃ r price lowest highest, (aggregate "gemini" [5] fourQuotes).result = .ok r ∧
        r.price = some price ∧ IsLeast (honestValues (· = "gemini") fourQuotes) lowest ∧
        IsGreatest (honestValues (· = "gemini") fourQuotes) highest ∧
        price.value ∈ Set.Icc lowest highest :=
  ⟨fourQuotesDistinct, fourQuotesFinite, by decide,
    aggregateHonestRange "gemini" [5] fourQuotesDistinct fourQuotesFinite (· = "gemini")
      (by decide)⟩

end QuorumRate.Quorum
