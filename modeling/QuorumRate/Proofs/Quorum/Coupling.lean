import Mathlib.Data.List.Forall2
import QuorumRate.Proofs.Quorum.Accounting

/-! Two aggregations of the same venues with the same picks. As long as the same venues fail, the
same one is evicted and the others keep their places, so what relates the prices of each venue
relates the kept prices one by one. A venue that is evicted or fails has no other part in it. -/
namespace QuorumRate.Quorum

structure Paired (R : String → Decimal → Decimal → Prop) (a b : Entry) : Prop where
  name : a.1 = b.1
  prices : R a.1 a.2 b.2

inductive Coupled (R : String → Decimal → Decimal → Prop) :
    String × Outcome → String × Outcome → Prop
  | faults (name : String) (fault fault' : Venue.Fault) :
    Coupled R (name, .error fault) (name, .error fault')
  | quotes {name : String} {quote quote' : Quote} {price price' : Decimal}
    (left : quote.price = .ok price) (right : quote'.price = .ok price')
    (related : R name price price') : Coupled R (name, .ok quote) (name, .ok quote')

structure EvictedAlike (R : String → Decimal → Decimal → Prop) (drawn drawn' : Drawn) : Prop where
  kept : List.Forall₂ (Paired R) drawn.kept drawn'.kept
  evicted : drawn'.evicted.map (·.1) = drawn.evicted.map (·.1)
  asked : drawn'.asked = drawn.asked
  picks : drawn'.picks = drawn.picks

variable {R : String → Decimal → Decimal → Prop} {heldOut : String}
  {outcomes outcomes' : List (String × Outcome)} {b b' : Ballot}

theorem Coupled.swap {o o' : String × Outcome} (coupled : Coupled R o o') :
    Coupled (fun name price price' => R name price' price) o' o := by
  cases coupled with
  | faults name fault fault' => exact .faults name fault' fault
  | quotes left right related => exact .quotes right left related

section
variable (coupled : List.Forall₂ (Coupled R) outcomes outcomes')
include coupled

theorem coupledNames : outcomes.map (·.1) = outcomes'.map (·.1) := by
  induction coupled with
  | nil => rfl
  | cons own _ ih => cases own <;> exact congrArg (_ :: ·) ih

theorem coupledDistinct (distinct : Distinct outcomes) : Distinct outcomes' := by
  unfold Distinct at *
  rwa [← coupledNames coupled]

theorem coupledQuote {name : String} {quote : Quote} (member : (name, .ok quote) ∈ outcomes) :
    ∃ price price', quote.price = .ok price ∧ R name price price' := by
  induction coupled with
  | nil => cases member
  | cons own _ ih =>
    cases member with
    | head =>
      cases own with
      | quotes left right related => exact ⟨_, _, left, related⟩
    | tail _ later => exact ih later

theorem coupledPriced : Priced outcomes := by
  intro name quote member
  obtain ⟨price, _, found, _⟩ := coupledQuote coupled member
  exact ⟨price, found⟩

theorem coupledFinite (finite : ∀ name price price', R name price price' → price.isFinite = true) :
    FinitePrices outcomes := by
  intro name quote member
  obtain ⟨price, price', found, related⟩ := coupledQuote coupled member
  exact ⟨price, found, finite name price price' related⟩

theorem coupledSwap :
    List.Forall₂ (Coupled fun name price price' => R name price' price) outcomes' outcomes :=
  coupled.flip.imp fun _ _ => Coupled.swap

theorem coupledEntries : List.Forall₂ (Paired R) (entries outcomes) (entries outcomes') := by
  induction coupled with
  | nil => exact .nil
  | cons own _ ih =>
    cases own with
    | faults name fault fault' => exact ih
    | quotes left right related =>
      rw [entriesQuote _ left, entriesQuote _ right]
      exact .cons ⟨rfl, related⟩ ih

end

section
variable {l l' : List Entry} (paired : List.Forall₂ (Paired R) l l')
include paired

theorem pairedFilter (p : String → Bool) :
    List.Forall₂ (Paired R) (l.filter fun entry => p entry.1) (l'.filter fun entry => p entry.1) :=
  List.rel_filter (fun _ _ pair => iff_of_eq (congrArg (p · = true) pair.name)) paired

theorem pairedErase (i : Nat) : List.Forall₂ (Paired R) (l.eraseIdx i) (l'.eraseIdx i) := by
  rw [List.eraseIdx_eq_take_drop_succ, List.eraseIdx_eq_take_drop_succ]
  exact List.rel_append (List.forall₂_take i paired) (List.forall₂_drop (i + 1) paired)

theorem pairedAt {i : Nat} {entry entry' : Entry} (found : l[i]? = some entry)
    (found' : l'[i]? = some entry') : Paired R entry entry' := by
  obtain ⟨within, rfl⟩ := List.getElem?_eq_some_iff.mp found
  obtain ⟨within', rfl⟩ := List.getElem?_eq_some_iff.mp found'
  exact paired.get within within'

end

theorem evictPaired (candidates : List.Forall₂ (Paired R) b.candidates b'.candidates)
    (last : List.Forall₂ (Paired R) (b.last heldOut) (b'.last heldOut)) (picks : List Int) :
    EvictedAlike R (b.evict heldOut picks) (b'.evict heldOut picks) := by
  have size : b'.size = b.size := by
    rw [b.sizeEq heldOut, b'.sizeEq heldOut, candidates.length_eq, last.length_eq]
  rcases sizeCases b with empty | odd | ⟨even, positive⟩
  · rw [evictEmpty heldOut picks empty, evictEmpty heldOut picks (size.trans empty)]
    exact ⟨.nil, rfl, rfl, rfl⟩
  · rw [evictOdd heldOut picks odd, evictOdd heldOut picks (by rwa [size])]
    exact ⟨List.rel_append candidates last, rfl, rfl, rfl⟩
  · obtain ⟨entry, found, evicted⟩ := evictEven heldOut picks even positive
    obtain ⟨entry', found', evicted'⟩ :=
      evictEven heldOut picks (b := b') (by rwa [size]) (by rwa [size])
    rw [← candidates.length_eq] at found' evicted'
    rw [evicted, evicted']
    exact ⟨List.rel_append (pairedErase candidates _) last,
      congrArg some (pairedAt candidates found found').name.symm, rfl, rfl⟩

theorem evictCoupled (counts : Counts heldOut outcomes b) (counts' : Counts heldOut outcomes' b')
    (coupled : List.Forall₂ (Coupled R) outcomes outcomes') (picks : List Int) :
    EvictedAlike R (b.evict heldOut picks) (b'.evict heldOut picks) := by
  have paired := coupledEntries coupled
  apply evictPaired
  · rw [counts.candidates, counts'.candidates]
    exact pairedFilter paired fun name => decide (name ≠ heldOut)
  · rw [counts.last, counts'.last]
    exact pairedFilter paired fun name => decide (name = heldOut)

/-- Prices of a venue that is the same in both runs, unless it is the one that is exempt. -/
def SameBut (exempt : Option String) (name : String) (own other : Decimal) : Prop :=
  exempt ≠ some name → own = other

/-! Venues that are not heard: an evicted one, whatever it quotes, and those that failed. -/

def unheard (evicted : Option String) (quote : Quote)
    (fault : String → Venue.Fault → Venue.Fault) : String × Outcome → String × Outcome
  | (name, .ok own) => (name, .ok (if evicted = some name then quote else own))
  | (name, .error own) => (name, .error (fault name own))

theorem unheardCoupled (priced : Priced outcomes) (evicted : Option String) {quote : Quote}
    {price : Decimal} (found : quote.price = .ok price)
    (fault : String → Venue.Fault → Venue.Fault) :
    List.Forall₂ (Coupled (SameBut evicted)) outcomes
      (outcomes.map (unheard evicted quote fault)) := by
  rw [List.forall₂_map_right_iff, List.forall₂_same]
  rintro ⟨name, outcome⟩ member
  cases outcome with
  | error own => exact .faults name own _
  | ok own =>
    obtain ⟨price, priced⟩ := priced name own member
    by_cases gone : evicted = some name
    · simp only [unheard, gone, if_true]
      exact .quotes priced found fun stays => absurd rfl stays
    · simp only [unheard, gone, if_false]
      exact .quotes priced priced fun _ => rfl

theorem unheardFaults (outcomes : List (String × Outcome)) (evicted : Option String)
    (quote : Quote) (fault : String → Venue.Fault → Venue.Fault) :
    faults (outcomes.map (unheard evicted quote fault)) =
      (faults outcomes).map fun (name, own) => (name, fault name own) := by
  induction outcomes with
  | nil => rfl
  | cons o rest ih =>
    obtain ⟨name, outcome⟩ := o
    cases outcome with
    | error own => exact congrArg (_ :: ·) ih
    | ok own => exact ih

theorem stayAlike {exempt : Option String} {l l' : List Entry}
    (paired : List.Forall₂ (Paired (SameBut exempt)) l l')
    (stay : ∀ entry ∈ l, exempt ≠ some entry.1) : l' = l := by
  induction paired with
  | nil => rfl
  | cons pair _ ih =>
    have price := pair.prices (stay _ List.mem_cons_self)
    rw [ih fun entry member => stay entry (List.mem_cons_of_mem _ member),
      Prod.ext pair.name price]

theorem reportUnheard {drawn drawn' : Drawn}
    (evicted : drawn'.evicted.map (·.1) = drawn.evicted.map (·.1))
    (faults : List (String × Venue.Fault)) (fault : String → Venue.Fault → Venue.Fault)
    (sorted : List Entry) :
    report drawn' (faults.map fun (name, own) => (name, fault name own)) sorted =
      { report drawn faults sorted with
        errors := (report drawn faults sorted).errors.map fun (name, own) =>
          (name, fault name own) } := by
  have names : (faults.map fun (name, own) => (name, fault name own)).map (·.1) =
      faults.map (·.1) := List.map_map
  unfold report
  rw [names, evicted]
  cases sorted[sorted.length / 2]? <;> rfl

structure Restated (run run' : Aggregation) (r : Report)
    (fault : String → Venue.Fault → Venue.Fault) : Prop where
  before : run.result = .ok r
  after : run'.result =
    .ok { r with errors := r.errors.map fun (name, own) => (name, fault name own) }
  asked : run'.asked = run.asked
  picks : run'.picks = run.picks

theorem aggregateUnheard (heldOut : String) (picks : List Int)
    {outcomes : List (String × Outcome)} (distinct : Distinct outcomes)
    (finite : FinitePrices outcomes) {quote : Quote} {price : Decimal}
    (found : quote.price = .ok price) (fault : String → Venue.Fault → Venue.Fault) :
    ∃ r, Restated (aggregate heldOut picks outcomes)
      (aggregate heldOut picks (outcomes.map (unheard r.evicted quote fault))) r fault := by
  obtain ⟨b, seats, seated⟩ := aggregateSeated heldOut picks distinct finite
  have priced := finite.priced
  have coupled := unheardCoupled priced ((b.evict heldOut picks).evicted.map (·.1)) found fault
  obtain ⟨b', counted', counts'⟩ := ballotCounts heldOut (coupledDistinct coupled distinct)
    (coupledPriced (coupledSwap coupled))
  have alike := evictCoupled seated.counts counts' coupled picks
  have kept := stayAlike alike.kept fun entry member =>
    keptApart seated.counts distinct priced picks member
  obtain ⟨result, asked, left⟩ := aggregateCounted (seated.counted distinct priced) picks
  obtain ⟨result', asked', left'⟩ := aggregateCounted counted' picks
  refine ⟨report (b.evict heldOut picks) (faults outcomes) seats, ?_⟩
  rw [seated.evicted priced]
  constructor
  case before => exact seated.result
  case after =>
    rw [seated.result, seated.counts.faults] at result
    rw [result', kept, counts'.faults, unheardFaults]
    cases order : sort (b.evict heldOut picks).kept with
    | error signal => simp [order, Except.map] at result
    | ok sorted =>
      simp only [order, Except.map, Except.ok.injEq] at result ⊢
      rw [result, reportUnheard alike.evicted]
  case asked => rw [asked', asked, alike.asked]
  case picks => rw [left', left, alike.picks]

theorem fourQuotesUnheard :
    Distinct fourQuotes ∧ FinitePrices fourQuotes ∧
      (⟨.finite false 1 40, .finite false 3 40⟩ : Quote).price = .ok (.finite false 2 40) ∧
      ∃ r, Restated (aggregate "gemini" [5] fourQuotes)
        (aggregate "gemini" [5] (fourQuotes.map (unheard r.evicted
          ⟨.finite false 1 40, .finite false 3 40⟩ fun _ _ => .status 503 ""))) r
        fun _ _ => .status 503 "" :=
  ⟨fourQuotesDistinct, fourQuotesFinite, rfl,
    aggregateUnheard "gemini" [5] fourQuotesDistinct fourQuotesFinite rfl fun _ _ =>
      .status 503 ""⟩

end QuorumRate.Quorum
