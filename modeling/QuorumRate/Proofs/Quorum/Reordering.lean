import Mathlib.Data.Finset.Density
import Mathlib.Data.List.NodupEquivFin
import QuorumRate.Proofs.Quorum.Accounting

/-! The same outcomes in another order. Whom a number evicts depends on the order, but for each
candidate there is one number that evicts it, and who is left settles the price: so a lot that is
drawn uniformly is fair, and the rate has the same distribution in every order. -/
namespace QuorumRate.Quorum

variable {heldOut : String} {outcomes outcomes' : List (String × Outcome)}

theorem Distinct.perm (distinct : Distinct outcomes) (perm : outcomes.Perm outcomes') :
    Distinct outcomes' :=
  (perm.map Prod.fst).nodup_iff.mp distinct

theorem FinitePrices.perm (finite : FinitePrices outcomes) (perm : outcomes.Perm outcomes') :
    FinitePrices outcomes' :=
  fun name quote member => finite name quote (perm.mem_iff.mpr member)

theorem quoteCountPerm (perm : outcomes.Perm outcomes') :
    quoteCount outcomes' = quoteCount outcomes :=
  (perm.countP_eq isQuote).symm

theorem candidatesPerm (heldOut : String) (perm : outcomes.Perm outcomes') :
    (candidateNames heldOut outcomes).Perm (candidateNames heldOut outcomes') :=
  (perm.filter _).map Prod.fst

theorem candidatesOnce (heldOut : String) (distinct : Distinct outcomes) :
    (candidateNames heldOut outcomes).Nodup :=
  distinct.sublist (List.filter_sublist.map Prod.fst)

theorem entryByName (distinct : Distinct outcomes) (priced : Priced outcomes) {a b : Entry}
    (left : a ∈ entries outcomes) (right : b ∈ entries outcomes) (same : a.1 = b.1) : a = b :=
  List.inj_on_of_nodup_map (distinct.sublist (entriesSublist priced)) left right same

structure Agree (r r' : Report) : Prop where
  price : ∃ price price', r.price = some price ∧ r'.price = some price' ∧
    Decimal.compare? price price' = some .eq
  sources : r.sources.Perm r'.sources
  failed : r.metadata.failed.Perm r'.metadata.failed

theorem seatValues {seats seats' : List Entry} (perm : seats.Perm seats')
    (ascending : seats.Pairwise fun a b => a.2.value ≤ b.2.value)
    (ascending' : seats'.Pairwise fun a b => a.2.value ≤ b.2.value) :
    seats.map (·.2.value) = seats'.map (·.2.value) :=
  List.Perm.eq_of_pairwise (fun _ _ _ _ => le_antisymm) (List.pairwise_map.mpr ascending)
    (List.pairwise_map.mpr ascending') (perm.map _)

namespace Seated
variable {picks picks' : List Int} {b b' : Ballot} {seats seats' : List Entry}

theorem seatsPerm (h : Seated heldOut picks outcomes b seats)
    (h' : Seated heldOut picks' outcomes' b' seats') (perm : outcomes.Perm outcomes')
    (same : (b.evict heldOut picks).evicted = (b'.evict heldOut picks').evicted) :
    seats.Perm seats' := by
  have total := (h.total.trans (perm.filterMap entryOf?)).trans h'.total.symm
  rw [same] at total
  exact (List.perm_append_right_iff _).mp total

theorem agree (h : Seated heldOut picks outcomes b seats)
    (h' : Seated heldOut picks' outcomes' b' seats') (finite : FinitePrices outcomes)
    (positive : 0 < quoteCount outcomes) (perm : outcomes.Perm outcomes')
    (same : (b.evict heldOut picks).evicted = (b'.evict heldOut picks').evicted) :
    ∃ r r', (aggregate heldOut picks outcomes).result = .ok r ∧
      (aggregate heldOut picks' outcomes').result = .ok r' ∧ Agree r r' ∧
      r.evicted = (b.evict heldOut picks).evicted.map (·.1) ∧
      r'.evicted = (b.evict heldOut picks).evicted.map (·.1) := by
  have finite' := finite.perm perm
  have positive' : 0 < quoteCount outcomes' := quoteCountPerm perm ▸ positive
  have seated := h.seatsPerm h' perm same
  obtain ⟨median, middle, result⟩ := h.settled finite.priced positive
  obtain ⟨median', middle', result'⟩ := h'.settled finite'.priced positive'
  have value : median.2.value = median'.2.value := by
    have all := seatValues seated h.ascending h'.ascending
    have left := congrArg (·[seats.length / 2]?) all
    simp only [List.getElem?_map, middle] at left
    rw [seated.length_eq, middle'] at left
    exact Option.some.inj left
  have left := finite.entries median (h.subset (List.mem_of_getElem? middle))
  have right := finite'.entries median' (h'.subset (List.mem_of_getElem? middle'))
  refine ⟨_, _, result, result', ⟨?_, ?_, ?_⟩, rfl, ?_⟩
  · refine ⟨median.2, median'.2, rfl, rfl, ?_⟩
    rw [Decimal.compareFinites left right, value, cmp_self_eq_eq]
  · exact seated.map (·.1)
  · exact (perm.filterMap faultOf?).map (·.1)
  · exact congrArg (Option.map (·.1)) same.symm

theorem evictedAt {i : Nat} {rest : List Int}
    (h : Seated heldOut ((i : Int) :: rest) outcomes b seats) (priced : Priced outcomes)
    (need : NeedsLot outcomes) (below : i < (candidateNames heldOut outcomes).length) :
    ∃ entry ∈ entries outcomes, (b.evict heldOut ((i : Int) :: rest)).evicted = some entry ∧
      (candidateNames heldOut outcomes)[i]? = some entry.1 := by
  have names := h.counts.candidateNames priced
  rw [← names, List.length_map] at below
  have drawn : (draw b.candidates.length ((i : Int) :: rest)).1 = i := by
    change ((i : Int) % b.candidates.length).toNat = i
    rw [Int.emod_eq_of_lt (by omega) (by omega), Int.toNat_natCast]
  obtain ⟨_, _, evicted⟩ := evictLot heldOut b ((i : Int) :: rest)
  rw [if_pos ((h.needsLot priced).mpr need), drawn, List.getElem?_eq_getElem below] at evicted
  refine ⟨b.candidates[i], ?_, evicted, ?_⟩
  · have member : b.candidates[i] ∈ (entries outcomes).filter (·.1 ≠ heldOut) :=
      h.counts.candidates ▸ List.getElem_mem below
    exact (List.mem_filter.mp member).1
  · rw [← names, List.getElem?_map, List.getElem?_eq_getElem below]
    rfl

end Seated

/-! Lots. A number below the number of candidates is taken as it is. -/

def Aggregation.evicted (run : Aggregation) : Option String :=
  run.result.toOption.bind Report.evicted

def Aggregation.rate (run : Aggregation) : Option ℚ :=
  (run.result.toOption.bind Report.price).map Decimal.value

def OnlyLot (heldOut : String) (outcomes : List (String × Outcome)) (name : String) (i : Nat) :
    Prop :=
  i < (candidateNames heldOut outcomes).length ∧
    ∀ j < (candidateNames heldOut outcomes).length, ∀ rest,
      (aggregate heldOut ((j : Int) :: rest) outcomes).evicted = some name ↔ j = i

theorem evictedName (distinct : Distinct outcomes) (finite : FinitePrices outcomes)
    (need : NeedsLot outcomes) {i : Nat} (below : i < (candidateNames heldOut outcomes).length)
    (rest : List Int) :
    (aggregate heldOut ((i : Int) :: rest) outcomes).evicted =
      (candidateNames heldOut outcomes)[i]? := by
  obtain ⟨b, seats, seated⟩ := aggregateSeated heldOut ((i : Int) :: rest) distinct finite
  obtain ⟨entry, _, evicted, place⟩ := seated.evictedAt finite.priced need below
  rw [place, Aggregation.evicted, seated.result]
  change (report _ _ _).evicted = _
  rw [seated.evicted finite.priced, evicted]
  rfl

theorem lotExists (distinct : Distinct outcomes) (finite : FinitePrices outcomes)
    (need : NeedsLot outcomes) {name : String}
    (candidate : name ∈ candidateNames heldOut outcomes) :
    ∃ i, OnlyLot heldOut outcomes name i := by
  obtain ⟨i, below, found⟩ := List.getElem_of_mem candidate
  refine ⟨i, below, fun j within rest => ?_⟩
  rw [evictedName distinct finite need within, List.getElem?_eq_getElem within, ← found,
    Option.some.injEq]
  exact (candidatesOnce heldOut distinct).getElem_inj_iff

theorem lotsAgree (distinct : Distinct outcomes) (finite : FinitePrices outcomes)
    (need : NeedsLot outcomes) (perm : outcomes.Perm outcomes') {name : String} {i i' : Nat}
    (place : (candidateNames heldOut outcomes)[i]? = some name)
    (place' : (candidateNames heldOut outcomes')[i']? = some name) (rest rest' : List Int) :
    ∃ r r', (aggregate heldOut ((i : Int) :: rest) outcomes).result = .ok r ∧
      (aggregate heldOut ((i' : Int) :: rest') outcomes').result = .ok r' ∧ Agree r r' := by
  have distinct' := distinct.perm perm
  have finite' := finite.perm perm
  have need' : NeedsLot outcomes' := by
    unfold NeedsLot
    rw [quoteCountPerm perm]
    exact need
  obtain ⟨below, _⟩ := List.getElem?_eq_some_iff.mp place
  obtain ⟨below', _⟩ := List.getElem?_eq_some_iff.mp place'
  obtain ⟨b, seats, seated⟩ := aggregateSeated heldOut ((i : Int) :: rest) distinct finite
  obtain ⟨b', seats', seated'⟩ := aggregateSeated heldOut ((i' : Int) :: rest') distinct' finite'
  obtain ⟨entry, member, evicted, own⟩ := seated.evictedAt finite.priced need below
  obtain ⟨entry', member', evicted', own'⟩ := seated'.evictedAt finite'.priced need' below'
  have same : entry = entry' := by
    refine entryByName distinct finite.priced member ?_ ?_
    · exact (perm.filterMap entryOf?).mem_iff.mpr member'
    · rw [place] at own
      rw [place'] at own'
      exact (Option.some.inj own).symm.trans (Option.some.inj own')
  obtain ⟨r, r', result, result', agree, _⟩ :=
    seated.agree seated' finite need.2 perm (by rw [evicted, evicted', same])
  exact ⟨r, r', result, result', agree⟩

theorem Agree.rate {run run' : Aggregation} {r r' : Report} (agree : Agree r r')
    (result : run.result = .ok r) (result' : run'.result = .ok r') : run.rate = run'.rate := by
  obtain ⟨price, price', priced, priced', same⟩ := agree.price
  unfold Aggregation.rate
  simp only [result, result', Except.toOption, Option.bind_some, priced, priced', Option.map_some,
    Decimal.valueOfCompare same]

def chance (heldOut : String) (outcomes : List (String × Outcome)) (rest : List Int)
    (event : Aggregation → Prop) [DecidablePred event] : ℚ≥0 :=
  (Finset.univ.filter fun i : Fin (candidateNames heldOut outcomes).length =>
    event (aggregate heldOut ((i : Int) :: rest) outcomes)).dens

theorem chanceEvicted (distinct : Distinct outcomes) (finite : FinitePrices outcomes)
    (need : NeedsLot outcomes) (rest : List Int) {name : String}
    (candidate : name ∈ candidateNames heldOut outcomes) :
    chance heldOut outcomes rest (·.evicted = some name) =
      1 / (candidateNames heldOut outcomes).length := by
  obtain ⟨i, below, only⟩ := lotExists distinct finite need candidate
  have alone : (Finset.univ.filter fun j : Fin (candidateNames heldOut outcomes).length =>
      (aggregate heldOut ((j : Int) :: rest) outcomes).evicted = some name) = {⟨i, below⟩} := by
    ext j
    rw [Finset.mem_filter, Finset.mem_singleton, Fin.ext_iff]
    exact (and_iff_right (Finset.mem_univ j)).trans (only j j.isLt rest)
  rw [chance, alone, Finset.dens_singleton, Fintype.card_fin, one_div]

theorem relabelling (heldOut : String) (distinct : Distinct outcomes)
    (perm : outcomes.Perm outcomes') :
    ∃ places : Fin (candidateNames heldOut outcomes).length ≃
        Fin (candidateNames heldOut outcomes').length,
      ∀ i, (candidateNames heldOut outcomes')[places i] = (candidateNames heldOut outcomes)[i] := by
  have once := candidatesOnce heldOut distinct
  have once' := candidatesOnce heldOut (distinct.perm perm)
  have same : ∀ name, name ∈ candidateNames heldOut outcomes ↔
      name ∈ candidateNames heldOut outcomes' := fun _ => (candidatesPerm heldOut perm).mem_iff
  let forth := once.getEquiv.trans (Equiv.subtypeEquivRight same)
  refine ⟨forth.trans once'.getEquiv.symm, fun i => ?_⟩
  have back := once'.getEquiv.apply_symm_apply (forth i)
  exact congrArg Subtype.val back

theorem chanceRate (distinct : Distinct outcomes) (finite : FinitePrices outcomes)
    (need : NeedsLot outcomes) (perm : outcomes.Perm outcomes') (rest rest' : List Int)
    (rate : Option ℚ) :
    chance heldOut outcomes rest (·.rate = rate) =
      chance heldOut outcomes' rest' (·.rate = rate) := by
  obtain ⟨places, label⟩ := relabelling heldOut distinct perm
  have rates (i : Fin (candidateNames heldOut outcomes).length) :
      (aggregate heldOut ((i : Int) :: rest) outcomes).rate =
        (aggregate heldOut ((places i : Int) :: rest') outcomes').rate := by
    obtain ⟨r, r', result, result', agree⟩ := lotsAgree distinct finite need perm
      (List.getElem?_eq_getElem i.isLt)
      ((List.getElem?_eq_getElem (places i).isLt).trans (congrArg some (label i))) rest rest'
    exact agree.rate result result'
  unfold chance
  rw [← Finset.dens_map_equiv places]
  congr 1
  ext j
  simp only [Finset.mem_map_equiv, Finset.mem_filter, Finset.mem_univ, true_and, rates,
    Equiv.apply_symm_apply]

structure OrderFree (heldOut : String) (outcomes outcomes' : List (String × Outcome)) : Prop where
  odd : quoteCount outcomes % 2 = 1 → ∀ picks picks', ∃ r r',
    (aggregate heldOut picks outcomes).result = .ok r ∧
      (aggregate heldOut picks' outcomes').result = .ok r' ∧ Agree r r' ∧
      r.evicted = none ∧ r'.evicted = none
  even : quoteCount outcomes % 2 = 0 → ∀ name ∈ candidateNames heldOut outcomes, ∃ i i',
    OnlyLot heldOut outcomes name i ∧ OnlyLot heldOut outcomes' name i' ∧
      ∀ rest rest', ∃ r r', (aggregate heldOut ((i : Int) :: rest) outcomes).result = .ok r ∧
        (aggregate heldOut ((i' : Int) :: rest') outcomes').result = .ok r' ∧ Agree r r'
  fair : quoteCount outcomes % 2 = 0 → ∀ name ∈ candidateNames heldOut outcomes, ∀ rest,
    chance heldOut outcomes rest (·.evicted = some name) =
      1 / (candidateNames heldOut outcomes).length
  distribution : quoteCount outcomes % 2 = 0 → ∀ rest rest' rate,
    chance heldOut outcomes rest (·.rate = rate) = chance heldOut outcomes' rest' (·.rate = rate)

theorem aggregateOrderFree (heldOut : String) {outcomes outcomes' : List (String × Outcome)}
    (distinct : Distinct outcomes) (finite : FinitePrices outcomes)
    (positive : 0 < quoteCount outcomes) (perm : outcomes.Perm outcomes') :
    OrderFree heldOut outcomes outcomes' := by
  have distinct' := distinct.perm perm
  have finite' := finite.perm perm
  have count := quoteCountPerm perm
  constructor
  case odd =>
    intro odd picks picks'
    obtain ⟨b, seats, seated⟩ := aggregateSeated heldOut picks distinct finite
    obtain ⟨b', seats', seated'⟩ := aggregateSeated heldOut picks' distinct' finite'
    have size := seated.counts.size finite.priced
    have size' := seated'.counts.size finite'.priced
    have stay := evictOdd heldOut picks (b := b) (by omega)
    have stay' := evictOdd heldOut picks' (b := b') (by omega)
    obtain ⟨r, r', result, result', agree, evicted, evicted'⟩ :=
      seated.agree seated' finite positive perm (by rw [stay, stay'])
    rw [stay] at evicted evicted'
    exact ⟨r, r', result, result', agree, evicted, evicted'⟩
  case even =>
    intro even name candidate
    have need : NeedsLot outcomes := ⟨even, positive⟩
    have need' : NeedsLot outcomes' := ⟨count ▸ even, count ▸ positive⟩
    have candidate' := (candidatesPerm heldOut perm).mem_iff.mp candidate
    obtain ⟨i, only⟩ := lotExists distinct finite need candidate
    obtain ⟨i', only'⟩ := lotExists distinct' finite' need' candidate'
    refine ⟨i, i', only, only', ?_⟩
    have place := (evictedName distinct finite need only.1 []).symm.trans
      ((only.2 i only.1 []).mpr rfl)
    have place' := (evictedName distinct' finite' need' only'.1 []).symm.trans
      ((only'.2 i' only'.1 []).mpr rfl)
    exact lotsAgree distinct finite need perm place place'
  case fair =>
    intro even name candidate rest
    exact chanceEvicted distinct finite ⟨even, positive⟩ rest candidate
  case distribution =>
    intro even rest rest' rate
    exact chanceRate distinct finite ⟨even, positive⟩ perm rest rest' rate

theorem fourQuotesOrderFree :
    Distinct fourQuotes ∧ FinitePrices fourQuotes ∧ 0 < quoteCount fourQuotes ∧
      fourQuotes.Perm fourQuotes.reverse ∧ OrderFree "gemini" fourQuotes fourQuotes.reverse :=
  ⟨fourQuotesDistinct, fourQuotesFinite, by decide, fourQuotes.reverse_perm.symm,
    aggregateOrderFree "gemini" fourQuotesDistinct fourQuotesFinite (by decide)
      fourQuotes.reverse_perm.symm⟩

end QuorumRate.Quorum
