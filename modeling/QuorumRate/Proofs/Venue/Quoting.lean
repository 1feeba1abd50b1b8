import QuorumRate.Proofs.Quote.Numeral
import QuorumRate.Proofs.Venue.Form

/-! The same ticker with its prices as numbers and as strings. Whatever stands around the prices,
either both bodies make the same quote or neither makes one. -/
namespace QuorumRate
open Json (Exact Gap Slot Spells ofNumeral readValue)

namespace Numeral
variable (n : Numeral) (blanks : Gap × Gap)

def bare : Slot Json := ⟨blanks.1, ofNumeral n, n.text, blanks.2⟩

def quoted : Slot Json := ⟨blanks.1, .string n.text, Json.enclosed n.text, blanks.2⟩

theorem plain : Json.Plain n.text := by
  intro c member
  obtain ⟨visible, _, quote, backslash⟩ := numericPlain (n.characters c member)
  exact ⟨by omega, quote, backslash⟩

theorem quotedSpells : Spells (n.quoted blanks).value (n.quoted blanks).text :=
  .string (Json.spellsPlain n.plain)

theorem quotedExact (depth : Nat) : Exact depth (n.quoted blanks).value :=
  .string fun c member => (Json.cleanWritable n.clean c member).2

theorem quotedLegible : Legible (n.quoted blanks) where
  writable := (n.quotedSpells blanks).writable (n.quotedExact blanks 0)
  reads fuel := (n.quotedSpells blanks).reads (n.quotedExact blanks 0) (Nat.zero_le fuel)

theorem bareLead : Json.Begins (n.bare blanks).text := by
  obtain ⟨c, rest, split, opens, _⟩ := Json.numeralLead n
  exact ⟨c, rest, split, opens⟩

variable {n}

theorem bareLegible (short : ¬ n.Long) (built : (Decimal.ofText? n.text).isSome = true) :
    Legible (n.bare blanks) := by
  have value : (Json.token n).value = .ok (ofNumeral n) := by
    cases whole : Json.isWhole n with
    | true => rw [Json.wholeValue whole, if_neg fun long => short ⟨whole, long⟩]
    | false => exact Json.decimalValue whole (readableOfBuilt built)
  refine ⟨Json.cleanWritable n.clean, fun fuel => ⟨n.bareLead blanks, fun rest follows => ?_⟩⟩
  change readValue fuel (n.text ++ rest) = _
  rw [Json.readValueNumeral n fuel follows, value]
  rfl

theorem bareOverlong (long : n.Long) : Overlong (n.bare blanks) := by
  refine ⟨Json.cleanWritable n.clean, fun fuel => ⟨n.bareLead blanks, fun rest follows => ?_⟩⟩
  refine ⟨n.whole.length, ?_⟩
  change readValue fuel (n.text ++ rest) = _
  rw [Json.readValueNumeral n fuel follows, Json.wholeValue long.1, if_pos long.2]
  rfl

theorem bareEither (built : (Decimal.ofText? n.text).isSome = true) :
    Legible (n.bare blanks) ∨ Overlong (n.bare blanks) := by
  by_cases long : n.Long
  · exact .inr (bareOverlong blanks long)
  · exact .inl (bareLegible blanks long built)

end Numeral

namespace Form
variable {v : Venue} (form : Form v) (bid ask : Numeral)

def bare : Slot Json := form.body (bid.bare form.bidBlanks) (ask.bare form.askBlanks)

def quoted : Slot Json := form.body (bid.quoted form.bidBlanks) (ask.quoted form.askBlanks)

variable {bid ask} {client : Client} {net : Network} {pair : Pair} {path : List Url} {last : Url}
  {e : Encoding} {marked : Bool} (bidBuilt : (Decimal.ofText? bid.text).isSome = true)
  (askBuilt : (Decimal.ofText? ask.text).isSome = true)

theorem fetchQuoted (delivers : Delivers client net (v.tickerUrl pair) path last
    (e.written marked (form.quoted bid ask).written)) :
    (v.fetch client net pair).result =
      (Quote.make v.name (v.symbol pair) (.string bid.text) (.string ask.text)).result := by
  have made := form.fetched (bid.quotedLegible form.bidBlanks) (ask.quotedLegible form.askBlanks)
    delivers
  exact made

include bidBuilt askBuilt in
theorem fetchShort (bidShort : ¬ bid.Long) (askShort : ¬ ask.Long)
    (delivers : Delivers client net (v.tickerUrl pair) path last
      (e.written marked (form.bare bid ask).written)) :
    (v.fetch client net pair).result =
      (Quote.make v.name (v.symbol pair) (ofNumeral bid) (ofNumeral ask)).result := by
  have made := form.fetched (Numeral.bareLegible form.bidBlanks bidShort bidBuilt)
    (Numeral.bareLegible form.askBlanks askShort askBuilt) delivers
  exact made

include bidBuilt askBuilt in
theorem fetchLong (long : bid.Long ∨ ask.Long)
    (delivers : Delivers client net (v.tickerUrl pair) path last
      (e.written marked (form.bare bid ask).written)) :
    ∃ fault, (v.fetch client net pair).result = .error (.venue (.content fault)) :=
  form.refused (Numeral.bareEither form.bidBlanks bidBuilt)
    (Numeral.bareEither form.askBlanks askBuilt)
    (long.imp (Numeral.bareOverlong form.bidBlanks) (Numeral.bareOverlong form.askBlanks)) delivers

end Form

structure Concur (bid ask : Numeral) (bare quoted : Except Failure Quote) : Prop where
  accepted : Quote.Sound ⟨bid.decimal, ask.decimal⟩ →
    quoted = .ok ⟨bid.decimal, ask.decimal⟩ ∧
      ∃ quote, bare = .ok quote ∧ bid.Tells quote.bid ∧ ask.Tells quote.ask
  refused : ¬ Quote.Sound ⟨bid.decimal, ask.decimal⟩ →
    (∃ fault, quoted = .error (.venue (.content fault))) ∧
      ∃ fault, bare = .error (.venue (.content fault))

theorem bareAsQuoted {v : Venue} (form : Form v) {bid ask : Numeral}
    (bidBuilt : (Decimal.ofText? bid.text).isSome = true)
    (askBuilt : (Decimal.ofText? ask.text).isSome = true) {client : Client} {pair : Pair}
    {bareNet quotedNet : Network} {path path' : List Url} {last last' : Url} {e e' : Encoding}
    {marked marked' : Bool}
    (bare : Delivers client bareNet (v.tickerUrl pair) path last
      (e.written marked (form.bare bid ask).written))
    (quoted : Delivers client quotedNet (v.tickerUrl pair) path' last'
      (e'.written marked' (form.quoted bid ask).written)) :
    Concur bid ask (v.fetch client bareNet pair).result (v.fetch client quotedNet pair).result := by
  have bidText := Numeral.amountQuoted bidBuilt
  have askText := Numeral.amountQuoted askBuilt
  obtain ⟨ownBid, bidRead, bidTells⟩ := bid.amountBare
  obtain ⟨ownAsk, askRead, askTells⟩ := ask.amountBare
  have alike : Quote.Sound ⟨ownBid, ownAsk⟩ ↔ Quote.Sound ⟨bid.decimal, ask.decimal⟩ :=
    ⟨fun own => ⟨bidTells.sideIff.mp own.bid, askTells.sideIff.mp own.ask⟩,
      fun sound => ⟨bidTells.sideIff.mpr sound.bid, askTells.sideIff.mpr sound.ask⟩⟩
  rw [form.fetchQuoted quoted]
  by_cases long : bid.Long ∨ ask.Long
  · have unsound : ¬ Quote.Sound ⟨bid.decimal, ask.decimal⟩ := fun sound =>
      long.elim (fun bidLong => bidLong.outOfRange sound.bid)
        fun askLong => askLong.outOfRange sound.ask
    exact ⟨fun sound => absurd sound unsound, fun _ => ⟨Quote.makeRefused bidText askText unsound,
      form.fetchLong bidBuilt askBuilt long bare⟩⟩
  rw [not_or] at long
  rw [form.fetchShort bidBuilt askBuilt long.1 long.2 bare]
  constructor
  · intro sound
    exact ⟨(Quote.makeOk bidText askText).mpr sound, ⟨ownBid, ownAsk⟩,
      (Quote.makeOk bidRead askRead).mpr (alike.mpr sound), bidTells, askTells⟩
  · intro unsound
    exact ⟨Quote.makeRefused bidText askText unsound,
      Quote.makeRefused bidRead askRead fun own => unsound (alike.mp own)⟩

def minusZero : Numeral := Json.wholeNumeral true 0

def fifteen : Numeral where
  negative := false
  whole := [.ofChar '1']
  fraction := .ofString "50"
  scale := some ⟨false, none, [.ofChar '1'], by decide, by decide⟩
  inside := by decide
  lead := ⟨_, _, rfl, by decide⟩

def priced (body : Slot Json) : Network :=
  Network.silent.set .gateio (.response 200 (Encoding.utf8.written false body.written) none)

theorem pricedDelivers (body : Slot Json) :
    Delivers borrowedClient (priced body) (Venue.gateio.tickerUrl .usd) []
      (Venue.gateio.tickerUrl .usd) (Encoding.utf8.written false body.written) :=
  ⟨rfl, .here _, by decide, 200, none, rfl, rfl⟩

def bareNet : Network := priced ((Form.plain .gateio).bare minusZero fifteen)

def quotedNet : Network := priced ((Form.plain .gateio).quoted minusZero fifteen)

theorem minusZeroAsQuoted :
    (Decimal.ofText? minusZero.text).isSome = true ∧
      (Decimal.ofText? fifteen.text).isSome = true ∧
      Concur minusZero fifteen (Venue.gateio.fetch borrowedClient bareNet .usd).result
        (Venue.gateio.fetch borrowedClient quotedNet .usd).result ∧
      (Venue.gateio.fetch borrowedClient bareNet .usd).result.toOption =
        some ⟨.finite false 0 0, .finite false 150 (-1)⟩ := by
  have bid : (Decimal.ofText? minusZero.text).isSome = true := by decide +kernel
  have ask : (Decimal.ofText? fifteen.text).isSome = true := by decide +kernel
  have bare := pricedDelivers ((Form.plain .gateio).bare minusZero fifteen)
  have quoted := pricedDelivers ((Form.plain .gateio).quoted minusZero fifteen)
  exact ⟨bid, ask, bareAsQuoted _ bid ask bare quoted, by decide +kernel⟩

example : ((Form.plain .gateio).bare minusZero fifteen).text =
    .ofString "[\x7b\"highest_bid\":-0,\"lowest_ask\":1.50e1\x7d]" := by decide +kernel

end QuorumRate
