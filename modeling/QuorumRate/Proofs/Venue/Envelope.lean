import QuorumRate.Proofs.Attempt
import QuorumRate.Proofs.Quote.Accepted

/-! What a venue has to serve for its vote to count: its own envelope, around two amounts that are
not below zero. Whatever else it serves is a fault of its content, but for the empty list. -/
namespace QuorumRate

theorem Keyed.findSome {κ α : Type} [DecidableEq κ] {entries : List (κ × α)} {key : κ} {v : α} :
    find? entries key = some v ↔
      ∃ before after, entries = before ++ (key, v) :: after ∧ ∀ e ∈ before, e.1 ≠ key := by
  unfold find?
  rw [Option.map_eq_some_iff]
  constructor
  · rintro ⟨⟨own, _⟩, found, rfl⟩
    obtain ⟨same, before, after, split, earlier⟩ := List.find?_eq_some_iff_append.mp found
    cases of_decide_eq_true same
    exact ⟨before, after, split, fun e member => by simpa using earlier e member⟩
  · rintro ⟨before, after, rfl, earlier⟩
    refine ⟨(key, v), ?_, rfl⟩
    exact List.find?_eq_some_iff_append.mpr ⟨decide_eq_true rfl, before, after, rfl,
      fun e member => by simpa using earlier e member⟩

/-- Is a value an object with this member? The first one of a name counts. -/
def Json.Holds (data : Json) (name : String) (v : Json) : Prop :=
  ∃ before after, data = .object (before ++ (Text.ofString name, v) :: after) ∧
    ∀ entry ∈ before, entry.1 ≠ Text.ofString name

theorem Json.memberOk {data : Json} {name : String} {v : Json} :
    data.member name = .ok v ↔ data.Holds name v := by
  unfold Json.Holds
  cases data with
  | object members =>
    simp only [Json.object.injEq, ← Keyed.findSome]
    dsimp only [Json.member]
    cases Keyed.find? members (Text.ofString name) with
    | none => exact ⟨nofun, nofun⟩
    | some own => rw [Except.ok.injEq, Option.some.injEq]
  | _ => exact ⟨nofun, fun ⟨_, _, same, _⟩ => nomatch same⟩

namespace Venue

def sideNames : Venue → String × String
  | .binance | .mexc => ("bidPrice", "askPrice")
  | .coinbase | .gemini => ("bid", "ask")
  | .gateio => ("highest_bid", "lowest_ask")
  | .kucoin => ("buy", "sell")

inductive Serves : Venue → Json → Json → Prop where
  | itself {v : Venue} {ticker} (bare : v ≠ .gateio ∧ v ≠ .kucoin) : Serves v ticker ticker
  | first {ticker more} : Serves .gateio (.array (ticker :: more)) ticker
  | wrapped {data ticker} (inside : data.Holds "data" ticker) : Serves .kucoin data ticker

def Envelope (v : Venue) (data bid ask : Json) : Prop :=
  ∃ ticker, v.Serves data ticker ∧ ticker.Holds v.sideNames.1 bid ∧ ticker.Holds v.sideNames.2 ask

def Accepts (v : Venue) (data : Json) (quote : Quote) : Prop :=
  ∃ bid ask, v.Envelope data bid ask ∧ Amount.ofJson bid = .ok quote.bid ∧
    Amount.ofJson ask = .ok quote.ask ∧ 0 ≤ quote.bid.value ∧ 0 ≤ quote.ask.value

def EmptyList (v : Venue) (data : Json) : Prop := v = .gateio ∧ data = .array []

theorem sidesOk {v : Venue} {ticker bid ask : Json} :
    sides v.sideNames.1 v.sideNames.2 ticker = .ok (bid, ask) ↔
      ticker.Holds v.sideNames.1 bid ∧ ticker.Holds v.sideNames.2 ask := by
  rw [← Json.memberOk, ← Json.memberOk]
  unfold sides
  constructor
  · intro ok
    obtain ⟨bid, first, ok⟩ := okOfBind ok
    obtain ⟨ask, second, ok⟩ := okOfBind ok
    cases ok
    exact ⟨first, second⟩
  · rintro ⟨first, second⟩
    rw [first, second]
    rfl

theorem tickerSidesBare {v : Venue} (bare : v ≠ .kucoin) (ticker : Json) :
    v.tickerSides ticker = sides v.sideNames.1 v.sideNames.2 ticker := by
  cases v <;> first | rfl | contradiction

theorem tickerSidesWrapped {data bid ask : Json} :
    Venue.kucoin.tickerSides data = .ok (bid, ask) ↔
      ∃ ticker, data.Holds "data" ticker ∧
        sides Venue.kucoin.sideNames.1 Venue.kucoin.sideNames.2 ticker = .ok (bid, ask) := by
  constructor
  · intro ok
    obtain ⟨ticker, inside, ok⟩ := okOfBind ok
    exact ⟨ticker, Json.memberOk.mp inside, ok⟩
  · rintro ⟨ticker, inside, ok⟩
    dsimp only [tickerSides]
    rw [Json.memberOk.mpr inside]
    exact ok

theorem tickerBare {v : Venue} (bare : v ≠ .gateio) (symbol : String) (data : Json) :
    v.ticker symbol data = .ok data := by
  cases v <;> first | rfl | contradiction

theorem tickerFirst {symbol : String} {data ticker : Json} :
    Venue.gateio.ticker symbol data = .ok ticker ↔ ∃ more, data = .array (ticker :: more) := by
  dsimp only [Venue.ticker]
  constructor
  · intro ok
    split at ok <;> cases ok
    exact ⟨_, rfl⟩
  · rintro ⟨more, rfl⟩
    rfl

theorem envelopeOk {v : Venue} (symbol : String) {data bid ask : Json} :
    (∃ ticker, v.ticker symbol data = .ok ticker ∧ v.tickerSides ticker = .ok (bid, ask)) ↔
      v.Envelope data bid ask := by
  constructor
  · rintro ⟨ticker, found, split⟩
    by_cases listed : v = .gateio
    · subst listed
      obtain ⟨more, rfl⟩ := tickerFirst.mp found
      rw [tickerSidesBare (by decide)] at split
      exact ⟨ticker, .first, sidesOk.mp split⟩
    · rw [tickerBare listed, Except.ok.injEq] at found
      subst found
      by_cases boxed : v = .kucoin
      · subst boxed
        obtain ⟨stats, inside, split⟩ := tickerSidesWrapped.mp split
        exact ⟨stats, .wrapped inside, sidesOk.mp split⟩
      · rw [tickerSidesBare boxed] at split
        exact ⟨data, .itself ⟨listed, boxed⟩, sidesOk.mp split⟩
  · rintro ⟨ticker, serves, holds⟩
    have split := sidesOk.mpr holds
    cases serves with
    | itself bare => exact ⟨_, tickerBare bare.1 _ _, (tickerSidesBare bare.2 _).trans split⟩
    | first => exact ⟨_, tickerFirst.mpr ⟨_, rfl⟩, (tickerSidesBare (by decide) _).trans split⟩
    | wrapped inside =>
      exact ⟨data, tickerBare (by decide) _ _, tickerSidesWrapped.mpr ⟨ticker, inside, split⟩⟩

theorem tickerFault {v : Venue} {symbol : String} {data : Json} {fault : Fault}
    (failed : v.ticker symbol data = .error fault) :
    v.EmptyList data ∧ fault = .status gone ("No ticker returned for " ++ symbol) ∨
      ¬ v.EmptyList data ∧ ∃ content, fault = .content content := by
  by_cases listed : v = .gateio
  · subst listed
    dsimp only [Venue.ticker] at failed
    split at failed
    · cases failed
    · cases failed
      exact .inl ⟨⟨rfl, rfl⟩, rfl⟩
    · rename_i filled empty
      cases failed
      exact .inr ⟨fun list => empty list.2, _, rfl⟩
  · rw [tickerBare listed] at failed
    cases failed

end Venue

namespace Venue
variable {v : Venue} {symbol : String} {data : Json}

theorem quoteOfEnvelope {bid ask : Json} (envelope : v.Envelope data bid ask) :
    v.quoteOf symbol data = Quote.make v.name symbol bid ask := by
  obtain ⟨ticker, found, split⟩ := (envelopeOk symbol).mpr envelope
  unfold quoteOf
  rw [found]
  dsimp only
  rw [split]

theorem quoteOfOk {quote : Quote} :
    (v.quoteOf symbol data).result = .ok quote ↔ v.Accepts data quote := by
  constructor
  · intro ok
    unfold quoteOf at ok
    split at ok
    · cases ok
    · rename_i ticker found
      split at ok
      · cases ok
      · rename_i bid ask split
        rw [Quote.makeResult] at ok
        exact ⟨bid, ask, (envelopeOk symbol).mp ⟨ticker, found, split⟩,
          Quote.ofAmountsOk.mp (okOfMapError ok)⟩
  · rintro ⟨bid, ask, envelope, amounts⟩
    rw [quoteOfEnvelope envelope, Quote.makeResult, Quote.ofAmountsOk.mpr amounts]
    rfl

theorem quoteOfEmptyList (empty : v.EmptyList data) :
    (v.quoteOf symbol data).result =
      .error (.venue (.status 410 ("No ticker returned for " ++ symbol))) := by
  obtain ⟨rfl, rfl⟩ := empty
  rfl

theorem quoteOfRefused (refused : ∀ quote, ¬ v.Accepts data quote) (filled : ¬ v.EmptyList data) :
    ∃ fault, (v.quoteOf symbol data).result = .error (.venue (.content fault)) := by
  cases result : (v.quoteOf symbol data).result with
  | ok quote => exact absurd (quoteOfOk.mp result) (refused quote)
  | error failure =>
    unfold quoteOf at result
    split at result
    · rename_i fault failed
      rcases tickerFault failed with ⟨empty, _⟩ | ⟨_, content, rfl⟩
      · exact absurd empty filled
      · cases result
        exact ⟨_, rfl⟩
    · split at result
      · cases result
        exact ⟨_, rfl⟩
      · rename_i bid ask split
        rw [Quote.makeResult] at result
        cases made : Quote.ofAmounts v.name symbol bid ask with
        | ok quote =>
          rw [made] at result
          cases result
        | error fault =>
          rw [made] at result
          cases result
          exact ⟨_, rfl⟩

theorem fetchServed {client : Client} {net : Network} {pair : Pair}
    (served : (client.getJson net (v.tickerUrl pair)).result = .ok data) :
    (v.fetch client net pair).result = (v.quoteOf (v.symbol pair) data).result := by
  unfold fetch
  rw [Attempt.bindResult, served]
  rfl

theorem fetchFails {client : Client} {net : Network} {pair : Pair} {failure : Failure}
    (failed : (client.getJson net (v.tickerUrl pair)).result = .error failure) :
    (v.fetch client net pair).result = .error failure := by
  unfold fetch
  rw [Attempt.bindResult, failed]
  rfl

end Venue

structure ByShape (v : Venue) (symbol : String) (data : Json) (result : Except Failure Quote) :
    Prop where
  quotes : ∀ quote, result = .ok quote ↔ v.Accepts data quote
  gone : v.EmptyList data →
    result = .error (.venue (.status 410 ("No ticker returned for " ++ symbol)))
  refused : (∀ quote, ¬ v.Accepts data quote) → ¬ v.EmptyList data →
    ∃ fault, result = .error (.venue (.content fault))

theorem fetchByShape {v : Venue} {client : Client} {net : Network} {pair : Pair} {data : Json}
    (served : (client.getJson net (v.tickerUrl pair)).result = .ok data) :
    ByShape v (v.symbol pair) data (v.fetch client net pair).result := by
  rw [Venue.fetchServed served]
  exact ⟨fun _ => Venue.quoteOfOk, Venue.quoteOfEmptyList, Venue.quoteOfRefused⟩

def boxedTicker : Network :=
  Network.silent.set .kucoin
    (.response 200 "\x7b\"data\":\x7b\"buy\":\"1.50\",\"sell\":2\x7d\x7d".toUTF8.toList none)

def borrowedClient : Client := ⟨false, false⟩

theorem boxedTickerByShape :
    ∃ data, (borrowedClient.getJson boxedTicker (Venue.tickerUrl .kucoin .usd)).result = .ok data ∧
      ByShape .kucoin "ZEC-USDT" data (Venue.kucoin.fetch borrowedClient boxedTicker .usd).result ∧
      Venue.kucoin.Accepts data ⟨.finite false 150 (-2), .finite false 2 0⟩ := by
  have reads : (borrowedClient.getJson boxedTicker
      (Venue.tickerUrl .kucoin .usd)).result.toOption.isSome = true := by decide +kernel
  obtain ⟨data, read⟩ := Option.isSome_iff_exists.mp reads
  have served := okOfToOption read
  have shape := fetchByShape served
  exact ⟨data, served, shape, (shape.quotes _).mp (okOfToOption (by decide +kernel))⟩

end QuorumRate
