import QuorumRate.Proofs.Transport.Body
import QuorumRate.Proofs.Venue.Envelope

/-! Prices on their way through a venue. Two amounts that a venue prints into its ticker come back
as the quote of these very decimals, through its envelope and in any encoding of its body. -/
namespace QuorumRate
open Json (Exact Slot Spells)

namespace Venue
variable {v : Venue} {client : Client} {net : Network} {pair : Pair} {path : List Url} {last : Url}

theorem fetchEnvelope {body : Octets} {data bid ask : Json}
    (delivers : Delivers client net (v.tickerUrl pair) path last body)
    (read : Json.ofBody net.nesting body = .ok data) (envelope : v.Envelope data bid ask) :
    (v.fetch client net pair).result = (Quote.make v.name (v.symbol pair) bid ask).result := by
  rw [fetchServed (congrArg Attempt.result (delivers.received read)), quoteOfEnvelope envelope]

end Venue

def Decimal.printed (d : Decimal) : Json := .string (.ofString d.toString)

theorem Decimal.amountPrinted {d : Decimal} (finite : d.isFinite = true) (built : d.Built) :
    Amount.decimalOf d.printed = .ok d := by
  unfold printed Amount.decimalOf
  dsimp only
  rw [readBuilt finite built]

theorem tickerRoundTrip {v : Venue} {client : Client} {net : Network} {pair : Pair}
    {path : List Url} {last : Url} {slot : Slot Json} {e : Encoding} {marked : Bool} {quote : Quote}
    (sound : quote.Sound) (bidBuilt : quote.bid.Built) (askBuilt : quote.ask.Built)
    (spells : Spells slot.value slot.text) (exact : Exact 200 slot.value)
    (envelope : v.Envelope slot.value quote.bid.printed quote.ask.printed)
    (delivers :
      Delivers client net (v.tickerUrl pair) path last (e.written marked slot.written)) :
    (v.fetch client net pair).result = .ok quote := by
  have read := Json.ofBodySpelled spells exact net.roomy e marked
  have bid := Decimal.amountPrinted sound.bid.finite bidBuilt
  have ask := Decimal.amountPrinted sound.ask.finite askBuilt
  rw [Venue.fetchEnvelope delivers read envelope]
  exact (Quote.makeOk bid ask).mpr sound

/-! Every venue can serve such a ticker. -/

namespace Venue
variable {v : Venue} {bid ask : Json} {depth : Nat}

def bareTicker (v : Venue) (bid ask : Json) : Json :=
  .object [(.ofString v.sideNames.1, bid), (.ofString v.sideNames.2, ask)]

def tickerBody (v : Venue) (bid ask : Json) : Json :=
  match v with
  | .gateio => .array [bareTicker .gateio bid ask]
  | .kucoin => .object [(.ofString "data", bareTicker .kucoin bid ask)]
  | other => bareTicker other bid ask

theorem sideNamesDiffer (v : Venue) :
    Text.ofString v.sideNames.1 ≠ Text.ofString v.sideNames.2 := by
  cases v <;> decide +kernel

theorem sideNamesScalar (v : Venue) :
    Json.Scalar (.ofString v.sideNames.1) ∧ Json.Scalar (.ofString v.sideNames.2) := by
  cases v <;> decide +kernel

theorem bareTickerHolds (v : Venue) (bid ask : Json) :
    (v.bareTicker bid ask).Holds v.sideNames.1 bid ∧
      (v.bareTicker bid ask).Holds v.sideNames.2 ask := by
  refine ⟨⟨[], _, rfl, nofun⟩, ⟨[(.ofString v.sideNames.1, bid)], [], rfl, ?_⟩⟩
  exact List.forall_mem_singleton.mpr (sideNamesDiffer v)

theorem tickerBodyEnvelope (v : Venue) (bid ask : Json) :
    v.Envelope (v.tickerBody bid ask) bid ask := by
  have holds := bareTickerHolds v bid ask
  cases v with
  | gateio => exact ⟨_, .first, holds⟩
  | kucoin => exact ⟨_, .wrapped ⟨[], [], rfl, nofun⟩, holds⟩
  | _ => exact ⟨_, .itself (by decide), holds⟩

theorem bareTickerExact (v : Venue) (bidExact : Exact depth bid) (askExact : Exact depth ask) :
    Exact (depth + 1) (v.bareTicker bid ask) := by
  obtain ⟨bidScalar, askScalar⟩ := sideNamesScalar v
  refine .object ?_ ?_ ?_
  · simpa using sideNamesDiffer v
  · simpa using ⟨bidScalar, askScalar⟩
  · simpa using ⟨bidExact, askExact⟩

theorem tickerBodyExact (v : Venue) (bidExact : ∀ depth, Exact depth bid)
    (askExact : ∀ depth, Exact depth ask) : Exact (depth + 2) (v.tickerBody bid ask) := by
  have bare (v : Venue) (depth : Nat) : Exact (depth + 1) (v.bareTicker bid ask) :=
    bareTickerExact v (bidExact depth) (askExact depth)
  have scalar : Json.Scalar (.ofString "data") := by decide +kernel
  cases v with
  | gateio => exact .array (List.forall_mem_singleton.mpr (bare .gateio depth))
  | kucoin =>
    exact .object (List.nodup_singleton _) (List.forall_mem_singleton.mpr scalar)
      (List.forall_mem_singleton.mpr (bare .kucoin depth))
  | _ => exact bare _ (depth + 1)

end Venue

theorem Decimal.printedExact {d : Decimal} (finite : d.isFinite = true) {depth : Nat} :
    Exact depth d.printed := by
  cases d with
  | finite n c e =>
    refine .string fun char member => ?_
    rw [printedText] at member
    have clean := cleanPrinted n (Parts.ofFinitePrints c e)
    exact (Json.cleanWritable clean char member).2
  | infinity negative => exact absurd finite Bool.false_ne_true
  | nan negative signaling payload => exact absurd finite Bool.false_ne_true

theorem tickerPrinted (v : Venue) {quote : Quote} (sound : quote.Sound) :
    ∃ slot : Slot Json, Spells slot.value slot.text ∧ Exact 200 slot.value ∧
      v.Envelope slot.value quote.bid.printed quote.ask.printed := by
  have exact : Exact 200 (v.tickerBody quote.bid.printed quote.ask.printed) :=
    Venue.tickerBodyExact v (fun _ => Decimal.printedExact sound.bid.finite)
      fun _ => Decimal.printedExact sound.ask.finite
  obtain ⟨text, spells⟩ := Json.spellingExists exact
  exact ⟨⟨Json.noGap, _, text, Json.noGap⟩, spells, exact, Venue.tickerBodyEnvelope v _ _⟩

def extremeQuote : Quote := ⟨.finite true 0 999999999999999999, .finite false 150 (-9)⟩

theorem extremeQuoteSound : extremeQuote.Sound where
  bid := ⟨rfl, by simp [extremeQuote], by simp [extremeQuote]; norm_num [Amount.maxLead],
    by simp [extremeQuote]⟩
  ask := by
    constructor <;>
      norm_num [extremeQuote, Decimal.isFinite, Decimal.value, Decimal.magnitude, Amount.maxLead]

theorem extremeQuoteRoundTrip :
    ∃ (slot : Slot Json) (net : Network),
      extremeQuote.Sound ∧ extremeQuote.bid.Built ∧ extremeQuote.ask.Built ∧
      Spells slot.value slot.text ∧ Exact 200 slot.value ∧
      Venue.kucoin.Envelope slot.value extremeQuote.bid.printed extremeQuote.ask.printed ∧
      Delivers ⟨true, false⟩ net (Venue.kucoin.tickerUrl .usd) [] (Venue.kucoin.tickerUrl .usd)
        (Encoding.utf8.written false slot.written) ∧
      (Venue.kucoin.fetch ⟨true, false⟩ net .usd).result = .ok extremeQuote := by
  obtain ⟨slot, spells, exact, envelope⟩ := tickerPrinted .kucoin extremeQuoteSound
  have bid : extremeQuote.bid.Built := ⟨_, Decimal.readPrinted true (by decide +kernel)⟩
  have ask : extremeQuote.ask.Built := ⟨_, Decimal.readPrinted false (by decide +kernel)⟩
  have delivers : Delivers ⟨true, false⟩
      (Network.silent.set .kucoin
        (.response 200 (Encoding.utf8.written false slot.written) none))
      (Venue.kucoin.tickerUrl .usd) [] (Venue.kucoin.tickerUrl .usd)
      (Encoding.utf8.written false slot.written) :=
    ⟨rfl, .here _, by decide, 200, none, rfl, rfl⟩
  exact ⟨slot, _, extremeQuoteSound, bid, ask, spells, exact, envelope, delivers,
    tickerRoundTrip extremeQuoteSound bid ask spells exact envelope delivers⟩

end QuorumRate
