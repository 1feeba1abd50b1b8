import QuorumRate.Proofs.Json.Sheet
import QuorumRate.Proofs.Venue.RoundTrip

/-! Tickers without their prices, with whatever stands around these: other members in any order,
blanks, other tickers behind the first. Two values put in are where the venue's envelope has bid and
ask, and the whole is read just when they are. -/
namespace QuorumRate
open Json (Exact Fails Gap Member Reads Sheet Slot Spells noGap readValue)

structure Legible (s : Slot Json) : Prop where
  writable : ∀ c ∈ s.text, Json.Writable c
  reads : ∀ fuel, Reads (readValue fuel) s

structure Overlong (s : Slot Json) : Prop where
  writable : ∀ c ∈ s.text, Json.Writable c
  fails : ∀ fuel, Fails (readValue fuel) s

inductive Frame : Venue → Type
  | itself {v : Venue} (bare : v ≠ .gateio ∧ v ≠ .kucoin) : Frame v
  | first (before : Gap) (more : List (Slot Json)) (after : Gap)
      (spelled : ∀ s ∈ more, Spells s.value s.text ∧ Exact 200 s.value) : Frame .gateio
  | boxed (outer : Sheet) (inside : outer.Has "data") : Frame .kucoin

namespace Frame
variable {v : Venue}

def around (frame : Frame v) (ticker : Slot Json) : Slot Json :=
  match frame with
  | .itself _ => ticker
  | .first before more after _ =>
    ⟨before, .array ((ticker :: more).map (·.value)),
      .ofChar '[' :: (Json.listed Slot.written ticker more ++ [.ofChar ']']), after⟩
  | .boxed outer _ => outer.filled [(.ofString "data", ticker)]

variable (frame : Frame v) {ticker : Slot Json}

theorem serves : v.Serves (frame.around ticker).value ticker.value := by
  cases frame with
  | itself bare => exact .itself bare
  | first before more after spelled => exact .first
  | boxed outer inside => exact .wrapped (Json.memberOk.mp (outer.filledMember inside rfl))

theorem writable (inner : ∀ c ∈ ticker.text, Json.Writable c) :
    ∀ c ∈ (frame.around ticker).text, Json.Writable c := by
  cases frame with
  | itself bare => exact inner
  | first before more after spelled =>
    refine Json.enclosedWritable (by decide) (by decide) (Json.listedWritable ?_)
    refine List.forall_mem_cons.mpr ⟨Json.slotWritable inner, fun s member => ?_⟩
    exact Json.slotWritable ((spelled s member).1.writable (spelled s member).2)
  | boxed outer inside => exact outer.filledWritable (List.forall_mem_singleton.mpr inner)

theorem reads {depth : Nat} (deep : 200 < depth)
    (each : ∀ fuel, 200 < fuel → Reads (readValue fuel) ticker) :
    Reads (readValue (depth + 1)) (frame.around ticker) := by
  cases frame with
  | itself bare => exact each _ (Nat.lt_succ_of_lt deep)
  | first before more after spelled =>
    have items : ∀ s ∈ ticker :: more, Reads (readValue depth) s :=
      List.forall_mem_cons.mpr ⟨each depth deep, fun s member =>
        (spelled s member).1.reads (spelled s member).2 deep.le⟩
    refine ⟨⟨_, _, rfl, by decide⟩, fun rest _ => ?_⟩
    have read := Json.readArrayWritten items rest
    simp [around, readValue, read]
  | boxed outer inside =>
    exact outer.filledReads deep.le (List.forall_mem_singleton.mpr (each depth deep))

theorem fails {depth : Nat} (deep : 200 < depth)
    (each : ∀ fuel, 200 < fuel → Fails (readValue fuel) ticker) :
    Fails (readValue (depth + 1)) (frame.around ticker) := by
  cases frame with
  | itself bare => exact each _ (Nat.lt_succ_of_lt deep)
  | first before more after spelled =>
    refine ⟨⟨_, _, rfl, by decide⟩, fun rest _ => ?_⟩
    obtain ⟨digits, fail⟩ := Json.readArrayFails (each depth deep) more rest
    exact ⟨digits, by simp [around, readValue, fail]⟩
  | boxed outer inside =>
    exact outer.filledFails deep.le (List.forall_mem_singleton.mpr (.inr (each depth deep))) inside
      rfl (each depth deep)

end Frame

structure Form (v : Venue) where
  frame : Frame v
  ticker : Sheet
  bid : ticker.Has v.sideNames.1
  ask : ticker.Has v.sideNames.2
  bidBlanks : Gap × Gap
  askBlanks : Gap × Gap

namespace Form
variable {v : Venue} (form : Form v) {bid ask : Slot Json}

def prices (v : Venue) (bid ask : Slot Json) : List (Text × Slot Json) :=
  [(.ofString v.sideNames.1, bid), (.ofString v.sideNames.2, ask)]

def body (form : Form v) (bid ask : Slot Json) : Slot Json :=
  form.frame.around (form.ticker.filled (prices v bid ask))

theorem pricesBid (v : Venue) (bid ask : Slot Json) :
    Keyed.find? (prices v bid ask) (.ofString v.sideNames.1) = some bid := by
  simp [prices, Keyed.find?]

theorem pricesAsk (v : Venue) (bid ask : Slot Json) :
    Keyed.find? (prices v bid ask) (.ofString v.sideNames.2) = some ask := by
  simp [prices, Keyed.find?, v.sideNamesDiffer]

theorem pricesBoth {P : Slot Json → Prop} (first : P bid) (second : P ask) :
    ∀ f ∈ prices v bid ask, P f.2 :=
  List.forall_mem_cons.mpr ⟨first, List.forall_mem_singleton.mpr second⟩

theorem envelope : v.Envelope (form.body bid ask).value bid.value ask.value :=
  ⟨_, form.frame.serves,
    Json.memberOk.mp (form.ticker.filledMember form.bid (pricesBid v bid ask)),
    Json.memberOk.mp (form.ticker.filledMember form.ask (pricesAsk v bid ask))⟩

theorem writable (bidWritable : ∀ c ∈ bid.text, Json.Writable c)
    (askWritable : ∀ c ∈ ask.text, Json.Writable c) :
    ∀ c ∈ (form.body bid ask).text, Json.Writable c :=
  form.frame.writable (form.ticker.filledWritable
    (pricesBoth (P := fun s => ∀ c ∈ s.text, Json.Writable c) bidWritable askWritable))

variable {client : Client} {net : Network} {pair : Pair} {path : List Url} {last : Url}
  {e : Encoding} {marked : Bool}

theorem nestingDeep (net : Network) : ∃ depth, net.nesting = depth + 1 ∧ 200 < depth := by
  have deep := net.deep
  exact ⟨net.nesting - 1, by omega, by omega⟩

theorem fetched (bidPrice : Legible bid) (askPrice : Legible ask)
    (delivers : Delivers client net (v.tickerUrl pair) path last
      (e.written marked (form.body bid ask).written)) :
    (v.fetch client net pair).result =
      (Quote.make v.name (v.symbol pair) bid.value ask.value).result := by
  obtain ⟨depth, nesting, deep⟩ := nestingDeep net
  have reads : Reads (readValue net.nesting) (form.body bid ask) :=
    nesting ▸ form.frame.reads deep fun fuel deep => by
      obtain ⟨fuel, rfl⟩ := Nat.exists_eq_succ_of_ne_zero (Nat.ne_of_gt (Nat.zero_lt_of_lt deep))
      exact form.ticker.filledReads (Nat.le_of_lt_succ deep)
        (pricesBoth (bidPrice.reads fuel) (askPrice.reads fuel))
  have written := form.writable bidPrice.writable askPrice.writable
  have body : Json.ofBody net.nesting (e.written marked (form.body bid ask).written) =
      .ok (form.body bid ask).value := by
    rw [Json.ofBodySlot reads.lead written, Json.readWholeReads reads]
    rfl
  exact Venue.fetchEnvelope delivers body form.envelope

theorem refused (bidPrice : Legible bid ∨ Overlong bid) (askPrice : Legible ask ∨ Overlong ask)
    (long : Overlong bid ∨ Overlong ask)
    (delivers : Delivers client net (v.tickerUrl pair) path last
      (e.written marked (form.body bid ask).written)) :
    ∃ fault, (v.fetch client net pair).result = .error (.venue (.content fault)) := by
  obtain ⟨depth, nesting, deep⟩ := nestingDeep net
  have fails : Fails (readValue net.nesting) (form.body bid ask) :=
    nesting ▸ form.frame.fails deep fun fuel deep => by
      obtain ⟨fuel, rfl⟩ := Nat.exists_eq_succ_of_ne_zero (Nat.ne_of_gt (Nat.zero_lt_of_lt deep))
      have deep := Nat.le_of_lt_succ deep
      have each := pricesBoth (v := v)
        (P := fun s => Reads (readValue fuel) s ∨ Fails (readValue fuel) s)
        (bidPrice.imp (·.reads fuel) (·.fails fuel)) (askPrice.imp (·.reads fuel) (·.fails fuel))
      rcases long with bidLong | askLong
      · exact form.ticker.filledFails deep each form.bid (pricesBid v bid ask) (bidLong.fails fuel)
      · exact form.ticker.filledFails deep each form.ask (pricesAsk v bid ask) (askLong.fails fuel)
  have written := form.writable (bidPrice.elim Legible.writable Overlong.writable)
    (askPrice.elim Legible.writable Overlong.writable)
  obtain ⟨digits, fail⟩ := Json.readWholeFails fails
  have body : Json.ofBody net.nesting (e.written marked (form.body bid ask).written) =
      .error (.text (form.body bid ask).written (.longInteger digits)) := by
    rw [Json.ofBodySlot fails.lead written, fail]
    rfl
  obtain ⟨fault, failed⟩ := delivers.refused body
  exact ⟨fault, Venue.fetchFails failed⟩

end Form

/-! Every venue has a ticker of its two prices and nothing else. -/

def plainMember (name : String) : Member :=
  ⟨⟨noGap, .ofString name, Json.enclosed (.ofString name), noGap⟩,
    ⟨noGap, .null, .ofString "null", noGap⟩⟩

theorem plainMemberSpelled {name : String} (plain : Json.Plain (.ofString name))
    (scalar : Json.Scalar (.ofString name)) : (plainMember name).Spelled :=
  ⟨Json.spellsPlain plain, scalar, .null, .null⟩

theorem Venue.sideNamesPlain (v : Venue) :
    Json.Plain (.ofString v.sideNames.1) ∧ Json.Plain (.ofString v.sideNames.2) := by
  cases v <;> decide +kernel

def Venue.plainSheet (v : Venue) : Sheet where
  before := noGap
  first := plainMember v.sideNames.1
  more := [plainMember v.sideNames.2]
  after := noGap
  distinct := List.nodup_cons.mpr
    ⟨fun member => v.sideNamesDiffer (List.mem_singleton.mp member), List.nodup_singleton _⟩
  spelled := List.forall_mem_cons.mpr
    ⟨plainMemberSpelled v.sideNamesPlain.1 v.sideNamesScalar.1, List.forall_mem_singleton.mpr
      (plainMemberSpelled v.sideNamesPlain.2 v.sideNamesScalar.2)⟩

def boxSheet : Sheet where
  before := noGap
  first := plainMember "data"
  more := []
  after := noGap
  distinct := List.nodup_singleton _
  spelled := List.forall_mem_singleton.mpr (plainMemberSpelled
    (by decide +kernel) (by decide +kernel))

def Frame.plain : (v : Venue) → Frame v
  | .gateio => .first noGap [] noGap nofun
  | .kucoin => .boxed boxSheet ⟨_, List.mem_cons_self, rfl⟩
  | .binance | .coinbase | .gemini | .mexc => .itself (by decide)

def Form.plain (v : Venue) : Form v where
  frame := .plain v
  ticker := v.plainSheet
  bid := ⟨_, List.mem_cons_self, rfl⟩
  ask := ⟨_, List.mem_cons_of_mem _ (List.mem_singleton_self _), rfl⟩
  bidBlanks := (noGap, noGap)
  askBlanks := (noGap, noGap)

end QuorumRate
