import Mathlib.Order.Interval.Set.Defs
import QuorumRate.Proofs.Quorum.Coupling
import QuorumRate.Proofs.Quote.Price

/-! How quotes move the price. A seat is at or below a value exactly if enough prices are, so the
prices on either side of a value are all that has to be counted: where no quote is lower than
before no more prices are below it, and where one venue quotes anew their number changes by one. -/
namespace QuorumRate.Quorum

section Ranks
variable {α : Type}

theorem countImp {p q : α → Prop} [DecidablePred p] [DecidablePred q] (l : List α)
    (imp : ∀ a, p a → q a) : l.countP (fun a => p a) ≤ l.countP (fun a => q a) :=
  List.countP_mono_left fun a _ holds => decide_eq_true (imp a (of_decide_eq_true holds))

variable (f : α → ℚ) {l : List α} {i : Nat} {x : α}
  (ascending : l.Pairwise fun a b => f a ≤ f b) (seat : l[i]? = some x) (v : ℚ)
include ascending seat

theorem seatLeIff : f x ≤ v ↔ i < l.countP (fun a => f a ≤ v) := by
  constructor
  · intro le
    have above := countAbove f ascending seat
    have split := List.length_eq_countP_add_countP (fun a => decide (f x < f a)) (l := l)
    simp only [decide_eq_true_eq, not_lt] at split
    have within := countImp l fun a (notAbove : f a ≤ f x) => notAbove.trans le
    omega
  · intro many
    by_contra apart
    have below := countBelow f ascending seat
    have within := countImp l fun a (le : f a ≤ v) => le.trans_lt (not_le.mp apart)
    omega

theorem leSeatIff : v ≤ f x ↔ l.countP (fun a => f a < v) ≤ i := by
  constructor
  · intro le
    have below := countBelow f ascending seat
    have within := countImp l fun a (less : f a < v) => less.trans_le le
    omega
  · intro few
    by_contra apart
    have reached := (seatLeIff f ascending seat (f x)).mp le_rfl
    have within := countImp l fun a (le : f a ≤ f x) => le.trans_lt (not_le.mp apart)
    omega

end Ranks

variable {heldOut : String} {picks : List Int} {outcomes outcomes' : List (String × Outcome)}
  {b b' : Ballot} {seats seats' : List Entry}

theorem Seated.seatLe (h : Seated heldOut picks outcomes b seats) {i : Nat} {x : Entry}
    (seat : seats[i]? = some x) (v : ℚ) :
    x.2.value ≤ v ↔ i < (b.evict heldOut picks).kept.countP fun entry => entry.2.value ≤ v := by
  rw [← h.perm.countP_eq]
  exact seatLeIff (fun entry : Entry => entry.2.value) h.ascending seat v

theorem Seated.leSeat (h : Seated heldOut picks outcomes b seats) {i : Nat} {x : Entry}
    (seat : seats[i]? = some x) (v : ℚ) :
    v ≤ x.2.value ↔ (b.evict heldOut picks).kept.countP (fun entry => entry.2.value < v) ≤ i := by
  rw [← h.perm.countP_eq]
  exact leSeatIff (fun entry : Entry => entry.2.value) h.ascending seat v

theorem Seated.length {R : String → Decimal → Decimal → Prop}
    (h : Seated heldOut picks outcomes b seats) (h' : Seated heldOut picks outcomes' b' seats')
    (coupled : List.Forall₂ (Coupled R) outcomes outcomes') : seats'.length = seats.length := by
  rw [h.perm.length_eq, h'.perm.length_eq]
  exact (evictCoupled h.counts h'.counts coupled picks).kept.length_eq.symm

/-! One venue quotes anew. -/

theorem countOther {name : String} {l l' : List Entry}
    (paired : List.Forall₂ (Paired (SameBut (some name))) l l') (p : Entry → Bool) :
    l.countP p ≤ l'.countP p + l.countP (fun entry => entry.1 = name) ∧
      l'.countP p ≤ l.countP p + l.countP (fun entry => entry.1 = name) := by
  induction paired with
  | nil => exact ⟨le_rfl, le_rfl⟩
  | @cons a b rest rest' pair _ ih =>
    simp only [List.countP_cons, decide_eq_true_eq]
    by_cases own : a.1 = name
    · split_ifs <;> omega
    · have same : a = b := by
        refine Prod.ext pair.name (pair.prices fun exempt => own ?_)
        exact (Option.some.inj exempt).symm
      subst same
      split_ifs <;> omega

theorem sameOutcomes (priced : Priced outcomes) (exempt : Option String) :
    List.Forall₂ (Coupled (SameBut exempt)) outcomes outcomes := by
  rw [List.forall₂_same]
  rintro ⟨name, outcome⟩ member
  cases outcome with
  | error fault => exact .faults name fault fault
  | ok quote =>
    obtain ⟨price, found⟩ := priced name quote member
    exact .quotes found found fun _ => rfl

section
variable {before after : List (String × Outcome)} {name : String} {quote quote' : Quote}

theorem quotedPositive : 0 < quoteCount (before ++ (name, .ok quote) :: after) :=
  List.countP_pos_iff.mpr ⟨(name, .ok quote), by simp, rfl⟩

theorem requoted (priced : Priced (before ++ (name, .ok quote) :: after))
    (priced' : Priced (before ++ (name, .ok quote') :: after)) :
    List.Forall₂ (Coupled (SameBut (some name))) (before ++ (name, .ok quote) :: after)
      (before ++ (name, .ok quote') :: after) := by
  obtain ⟨price, found⟩ := priced name quote (by simp)
  obtain ⟨price', found'⟩ := priced' name quote' (by simp)
  have front : Priced before := fun other own member => priced other own (by simp [member])
  have behind : Priced after := fun other own member => priced other own (by simp [member])
  exact List.rel_append (sameOutcomes front _)
    (.cons (.quotes found found' fun other => absurd rfl other) (sameOutcomes behind _))

end

def PriceOf (outcomes : List (String × Outcome)) (name : String) (price : Decimal) : Prop :=
  ∃ quote, (name, .ok quote) ∈ outcomes ∧ quote.price = .ok price

structure Confined (outcomes : List (String × Outcome)) (seats : Seats) (prices : List Decimal)
    (price : Decimal) : Prop where
  quoted : List.Forall₂ (PriceOf outcomes) seats.sources prices
  ascending : prices.Pairwise fun a b => a.value ≤ b.value
  between : ∀ k, 0 < k → seats.count = 2 * k + 1 → ∃ low high,
    prices[k - 1]? = some low ∧ prices[k + 1]? = some high ∧
      price.value ∈ Set.Icc low.value high.value

theorem aggregateConfined (heldOut : String) (picks : List Int)
    (before after : List (String × Outcome)) {name : String} {quote quote' : Quote}
    (distinct : Distinct (before ++ (name, .ok quote) :: after))
    (finite : FinitePrices (before ++ (name, .ok quote) :: after))
    (finite' : FinitePrices (before ++ (name, .ok quote') :: after)) :
    ∃ r seats prices r' price',
      (aggregate heldOut picks (before ++ (name, .ok quote) :: after)).result = .ok r ∧
      r.metadata.seats = some seats ∧
      (aggregate heldOut picks (before ++ (name, .ok quote') :: after)).result = .ok r' ∧
      r'.price = some price' ∧
      Confined (before ++ (name, .ok quote) :: after) seats prices price' := by
  have coupled := requoted finite.priced finite'.priced
  obtain ⟨b, seats, seated⟩ := aggregateSeated heldOut picks distinct finite
  obtain ⟨b', seats', seated'⟩ :=
    aggregateSeated heldOut picks (coupledDistinct coupled distinct) finite'
  obtain ⟨median, _, result⟩ := seated.settled finite.priced quotedPositive
  obtain ⟨median', middle', result'⟩ := seated'.settled finite'.priced quotedPositive
  refine ⟨_, _, seats.map (·.2), _, median'.2, result, rfl, result', rfl, ?quoted, ?ascending,
    ?between⟩
  case quoted =>
    rw [List.forall₂_map_left_iff, List.forall₂_map_right_iff, List.forall₂_same]
    exact fun entry member => memEntries.mp (seated.subset member)
  case ascending => exact List.pairwise_map.mpr seated.ascending
  case between =>
    intro k positive size
    rw [Seats.count, List.length_map] at size
    have half : seats'.length / 2 = k := by
      rw [seated.length seated' coupled]
      omega
    rw [half] at middle'
    have kept := (evictCoupled seated.counts seated'.counts coupled picks).kept
    have once := keptOnce seated.counts distinct finite.priced picks name
    have low : seats[k - 1]? = some seats[k - 1] := List.getElem?_eq_getElem (by omega)
    have high : seats[k + 1]? = some seats[k + 1] := List.getElem?_eq_getElem (by omega)
    refine ⟨seats[k - 1].2, seats[k + 1].2, by simp [low], by simp [high], ?_, ?_⟩
    · have below := (seated.leSeat low _).mp le_rfl
      rw [seated'.leSeat middle']
      have moved := (countOther kept fun entry => entry.2.value < seats[k - 1].2.value).2
      omega
    · have reached := (seated.seatLe high _).mp le_rfl
      rw [seated'.seatLe middle']
      have moved := (countOther kept fun entry => entry.2.value ≤ seats[k + 1].2.value).1
      omega

def farQuote : Quote := ⟨.finite false 1 30, .finite false 1 30⟩

theorem farQuoteFinite :
    FinitePrices (fourQuotes.take 2 ++ ("gemini", .ok farQuote) :: fourQuotes.drop 3) := by
  intro name quote member
  simp only [fourQuotes, farQuote, List.take, List.drop, List.cons_append, List.nil_append,
    List.mem_cons, List.not_mem_nil, Prod.mk.injEq, Except.ok.injEq, reduceCtorEq, and_false,
    or_false, false_or] at member
  rcases member with ⟨_, rfl⟩ | ⟨_, rfl⟩ | ⟨_, rfl⟩ | ⟨_, rfl⟩ <;> exact ⟨_, rfl, rfl⟩

theorem farQuoteConfined :
    Distinct fourQuotes ∧ FinitePrices fourQuotes ∧
      FinitePrices (fourQuotes.take 2 ++ ("gemini", .ok farQuote) :: fourQuotes.drop 3) ∧
      ∃ r seats prices r' price', (aggregate "gemini" [5] fourQuotes).result = .ok r ∧
        r.metadata.seats = some seats ∧
        (aggregate "gemini" [5]
          (fourQuotes.take 2 ++ ("gemini", .ok farQuote) :: fourQuotes.drop 3)).result = .ok r' ∧
        r'.price = some price' ∧ Confined fourQuotes seats prices price' :=
  ⟨fourQuotesDistinct, fourQuotesFinite, farQuoteFinite,
    aggregateConfined "gemini" [5] (fourQuotes.take 2) (fourQuotes.drop 3) fourQuotesDistinct
      fourQuotesFinite farQuoteFinite⟩

/-! No venue quotes lower than before. -/

inductive Raised : String × Outcome → String × Outcome → Prop
  | faults (name : String) (fault fault' : Venue.Fault) :
    Raised (name, .error fault) (name, .error fault')
  | quotes {name : String} {quote quote' : Quote} (made : quote.Made) (made' : quote'.Made)
    (bid : quote.bid.value ≤ quote'.bid.value) (ask : quote.ask.value ≤ quote'.ask.value) :
    Raised (name, .ok quote) (name, .ok quote')

def AtMost (_ : String) (own other : Decimal) : Prop :=
  own.isFinite = true ∧ other.isFinite = true ∧ own.value ≤ other.value

theorem Raised.coupled {o o' : String × Outcome} (raised : Raised o o') :
    Coupled AtMost o o' := by
  cases raised with
  | faults name fault fault' => exact .faults name fault fault'
  | quotes made made' bid ask =>
    obtain ⟨price, found, finite, value⟩ := made.sound.price
    obtain ⟨price', found', finite', value'⟩ := made'.sound.price
    refine .quotes found found' ⟨finite, finite', ?_⟩
    rw [value, value']
    exact made.sound.roundedMono bid ask

theorem countRaised {l l' : List Entry} (paired : List.Forall₂ (Paired AtMost) l l') (v : ℚ) :
    l'.countP (fun entry => entry.2.value ≤ v) ≤ l.countP (fun entry => entry.2.value ≤ v) := by
  induction paired with
  | nil => exact le_rfl
  | @cons a b rest rest' pair _ ih =>
    simp only [List.countP_cons, decide_eq_true_eq]
    by_cases low : b.2.value ≤ v
    · rw [if_pos low, if_pos (pair.prices.2.2.trans low)]
      omega
    · rw [if_neg low]
      omega

structure NotLower (outcomes : List (String × Outcome)) (r r' : Report) : Prop where
  failed : quoteCount outcomes = 0 → r.price = none ∧ r'.price = none
  priced : 0 < quoteCount outcomes → ∃ price price', r.price = some price ∧
    r'.price = some price' ∧ price.isFinite = true ∧ price'.isFinite = true ∧
    price.value ≤ price'.value
  evicted : r'.evicted = r.evicted

theorem aggregateNotLower (heldOut : String) (picks : List Int)
    {outcomes outcomes' : List (String × Outcome)} (distinct : Distinct outcomes)
    (raised : List.Forall₂ Raised outcomes outcomes') :
    ∃ r r', (aggregate heldOut picks outcomes).result = .ok r ∧
      (aggregate heldOut picks outcomes').result = .ok r' ∧ NotLower outcomes r r' := by
  have coupled := raised.imp fun _ _ => Raised.coupled
  have finite := coupledFinite coupled fun _ _ _ atMost => atMost.1
  have finite' := coupledFinite (coupledSwap coupled) fun _ _ _ atMost => atMost.2.1
  have count : quoteCount outcomes' = quoteCount outcomes := by
    rw [← entriesLength finite.priced, ← entriesLength finite'.priced]
    exact (coupledEntries coupled).length_eq.symm
  obtain ⟨b, seats, seated⟩ := aggregateSeated heldOut picks distinct finite
  obtain ⟨b', seats', seated'⟩ :=
    aggregateSeated heldOut picks (coupledDistinct coupled distinct) finite'
  have alike := evictCoupled seated.counts seated'.counts coupled picks
  refine ⟨_, _, seated.result, seated'.result, ?_⟩
  constructor
  case failed =>
    intro none
    rw [seated.empty finite.priced none, seated'.empty finite'.priced (count.trans none)]
    exact ⟨rfl, rfl⟩
  case priced =>
    intro positive
    obtain ⟨median, middle, form⟩ := seated.median finite.priced positive
    obtain ⟨median', middle', form'⟩ := seated'.median finite'.priced (count ▸ positive)
    rw [form, form']
    refine ⟨_, _, rfl, rfl, ?_, ?_, ?_⟩
    · exact finite.entries median (seated.subset (List.mem_of_getElem? middle))
    · exact finite'.entries median' (seated'.subset (List.mem_of_getElem? middle'))
    · rw [seated.length seated' coupled] at middle'
      have reached := (seated'.seatLe middle' _).mp le_rfl
      rw [seated.seatLe middle]
      exact reached.trans_le (countRaised alike.kept median'.2.value)
  case evicted => rw [seated.evicted finite.priced, seated'.evicted finite'.priced, alike.evicted]

def risenQuotes : List (String × Outcome) :=
  [("alpha", .ok ⟨.finite false 10 0, .finite false 12 0⟩),
   ("beta", .error (.unreachable "reset")),
   ("gemini", .ok ⟨.finite false 9 0, .finite false 15 0⟩),
   ("kappa", .ok ⟨.finite false 100 (-1), .finite false 4 1⟩),
   ("mu", .ok ⟨.finite false 1 2, .finite false 3 2⟩)]

theorem risenRaised : List.Forall₂ Raised fourQuotes risenQuotes := by
  have made {bid ask : Decimal}
      (ok : (Quote.make "" "" (.decimal bid) (.decimal ask)).result = .ok ⟨bid, ask⟩) :
      Quote.Made ⟨bid, ask⟩ := ⟨_, _, _, _, ok⟩
  refine .cons (.quotes (made rfl) (made rfl) ?_ ?_) (.cons (.faults _ _ _)
    (.cons (.quotes (made rfl) (made rfl) ?_ ?_) (.cons (.quotes (made rfl) (made rfl) ?_ ?_)
      (.cons (.quotes (made rfl) (made rfl) ?_ ?_) .nil))))
  all_goals norm_num [Decimal.value, Decimal.magnitude]

theorem fourQuotesNotLower :
    Distinct fourQuotes ∧ List.Forall₂ Raised fourQuotes risenQuotes ∧
      ∃ r r', (aggregate "gemini" [0] fourQuotes).result = .ok r ∧
        (aggregate "gemini" [0] risenQuotes).result = .ok r' ∧ NotLower fourQuotes r r' :=
  ⟨fourQuotesDistinct, risenRaised, aggregateNotLower "gemini" [0] fourQuotesDistinct risenRaised⟩

end QuorumRate.Quorum
