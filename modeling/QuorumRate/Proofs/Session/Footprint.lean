import QuorumRate.Proofs.Session.Rate
import QuorumRate.Proofs.Transport.Route

/-! What a rate asks of the network: nothing at all in a currency that is not known, and otherwise
one request to each venue, whatever the others answer, with those that its redirects lead to. They
are told venue by venue, in the order in which the venues finish. -/
namespace QuorumRate

namespace Client

theorem decodeFails (nesting : Nat) {r : Response} (failed : isSuccess r.status = false) :
    (decode nesting r).result = .error (.venue (.status r.status r.shownBody)) := by
  unfold decode
  rw [failed]
  rfl

theorem decodeRequests (nesting : Nat) (r : Response) :
    (decode nesting r).trace.requests = [] := by
  unfold decode
  split
  · split <;> rfl
  · rfl

end Client

namespace Venue

def endpoint : Venue → String
  | .binance => "https://api.binance.com/api/v3/ticker/24hr?symbol=ZECUSDT"
  | .coinbase => "https://api.exchange.coinbase.com/products/ZEC-USD/ticker"
  | .gateio => "https://api.gateio.ws/api/v4/spot/tickers?currency_pair=ZEC_USDT"
  | .gemini => "https://api.gemini.com/v2/ticker/zecusd"
  | .kucoin => "https://api.kucoin.com/api/v1/market/stats?symbol=ZEC-USDT"
  | .mexc => "https://api.mexc.com/api/v3/ticker/24hr?symbol=ZECUSDT"

theorem endpointText (v : Venue) (pair : Pair) : (v.tickerUrl pair).text = v.endpoint := by
  cases pair
  cases v <;> decide +kernel

/-- What a venue makes of the reply at an address, if that is the last one of its route. -/
def derive (v : Venue) (nesting : Nat) (pair : Pair) (url : Url) : Reply → Except Failure Quote
  | .timeout text => .error (.venue (.timeout text))
  | .broken text => .error (.venue (.unreachable text))
  | .refused refusal text => .error (.refused refusal text)
  | .unwritable place => .error (.beyondAscii place)
  | .answer status body location => do
    let _ ← Client.next? url status location
    (Client.decode nesting ⟨url, status, body⟩ >>= v.quoteOf (v.symbol pair)).result

theorem quoteOfRequests (v : Venue) (symbol : String) (data : Json) :
    (v.quoteOf symbol data).trace.requests = [] := by
  unfold quoteOf
  split
  · rfl
  · split
    · rfl
    · unfold Quote.make
      split
      · rfl
      · split <;> rfl

variable {v : Venue} {client : Client} {net : Network} {pair : Pair}

theorem fetchRequests (v : Venue) (client : Client) (net : Network) (pair : Pair) :
    (v.fetch client net pair).trace.requests =
      (client.get net (v.tickerUrl pair)).trace.requests := by
  unfold fetch Client.getJson
  rw [Attempt.quietBind _ (v.quoteOfRequests _), Attempt.quietBind _ (Client.decodeRequests _)]

theorem fetchArrival {last : Url}
    (got : (client.get net (v.tickerUrl pair)).result = Client.arrival net last) :
    (v.fetch client net pair).result = v.derive net.nesting pair last (net.reply last) := by
  unfold fetch Client.getJson
  rw [Attempt.bindResult, Attempt.bindResult, got]
  unfold Client.arrival derive
  cases net.reply last with
  | timeout text => rfl
  | broken text => rfl
  | refused refusal text => rfl
  | unwritable place => rfl
  | answer status body location =>
    dsimp only
    cases Client.next? last status location with
    | error failure => rfl
    | ok next => exact (Attempt.bindResult _ _).symm

theorem fetchError {failure : Failure}
    (got : (client.get net (v.tickerUrl pair)).result = .error failure) :
    (v.fetch client net pair).result = .error failure := by
  unfold fetch Client.getJson
  rw [Attempt.bindResult, Attempt.bindResult, got]
  rfl

theorem fetchBorrowed (isOpen : client.isClosed = false) (borrowed : client.follows = false)
    (v : Venue) (net : Network) (pair : Pair) :
    (v.fetch client net pair).result =
        v.derive net.nesting pair (v.tickerUrl pair) (net.reply (v.tickerUrl pair)) ∧
      (v.fetch client net pair).trace.requests = ["GET " ++ v.endpoint] := by
  have got := Client.getBorrowed isOpen borrowed net (v.tickerUrl pair)
  constructor
  · exact fetchArrival (congrArg Attempt.result got)
  · rw [fetchRequests, got, ← endpointText v pair]
    rfl

theorem deriveRedirect {nesting : Nat} {url : Url} {status : Int} {body : Octets}
    {location : Option Octets} {next : Option Url} (redirects : Client.isRedirect status = true)
    (read : Client.next? url status location = .ok next) :
    v.derive nesting pair url (.answer status body location) =
      .error (.venue (.status status (Client.Response.shownBody ⟨url, status, body⟩))) := by
  have failed := Client.decodeFails nesting (r := ⟨url, status, body⟩)
    (Client.redirectFails redirects)
  dsimp only [derive]
  rw [read]
  refine (Attempt.bindResult _ _).trans ?_
  rw [failed]
  rfl

theorem deriveAstray {nesting : Nat} {url : Url} {status : Int} {body : Octets}
    {location : Option Octets} {failure : Failure}
    (astray : Client.next? url status location = .error failure) :
    v.derive nesting pair url (.answer status body location) = .error failure := by
  dsimp only [derive]
  rw [astray]
  rfl

structure Routed (v : Venue) (client : Client) (net : Network) (pair : Pair) (path : List Url)
    (last : Url) : Prop where
  starts : (v.tickerUrl pair).text = v.endpoint
  route : Route net (v.tickerUrl pair) path last
  few : path.length + 1 ≤ 21
  requests : (v.fetch client net pair).trace.requests =
    (path ++ [last]).map fun url => "GET " ++ url.text
  exceeded : LeadsOn net last → path.length + 1 = 21 ∧ (v.fetch client net pair).result =
    .error (.venue (.unreachable "Exceeded maximum allowed redirects."))
  derived : ¬ LeadsOn net last →
    (v.fetch client net pair).result = v.derive net.nesting pair last (net.reply last)

theorem fetchRouted (isOpen : client.isClosed = false) (owned : client.follows = true) (v : Venue)
    (net : Network) (pair : Pair) : ∃ path last, v.Routed client net pair path last := by
  obtain ⟨path, last, route, short, spent⟩ :=
    Client.routeExists net Client.maxRedirects (v.tickerUrl pair)
  have got : client.get net (v.tickerUrl pair) =
      .after (sent path) (Client.follow net (Client.maxRedirects - path.length) last) := by
    rw [Client.getOwned isOpen owned, ← Client.followRoute route, Nat.add_sub_cancel' short]
  have requested {result : Except Failure Client.Response}
      (ends : Client.follow net (Client.maxRedirects - path.length) last = ⟨result, sent [last]⟩) :
      (v.fetch client net pair).trace.requests =
        (path ++ [last]).map fun url => "GET " ++ url.text := by
    rw [fetchRequests, got, ends, List.map_append]
    rfl
  refine ⟨path, last, endpointText v pair, route, Nat.succ_le_succ short, ?_, ?_, ?_⟩
  · by_cases leads : LeadsOn net last
    · exact requested (by rw [spent leads, Nat.sub_self, Client.followSpent leads])
    · exact requested (Client.followStops leads _)
  · intro leads
    refine ⟨congrArg (· + 1) (spent leads), fetchError ?_⟩
    rw [got, spent leads, Nat.sub_self, Client.followSpent leads]
    rfl
  · intro stays
    refine fetchArrival ?_
    rw [got, Client.followStops stays]
    rfl

end Venue

namespace Session
variable {client : Client} {net : Network} {pair : Pair}

theorem rateRequests (client : Client) (net : Network) (picks : List Int) (pair : Pair) :
    (rateOf client net picks pair).trace.requests =
      net.finishing.flatMap fun v => (v.fetch client net pair).trace.requests := by
  have joined := Panel.joinRequests pair (entrants client net pair Venue.all)
    (entrants client net pair net.finishing)
  have all : (entrants client net pair net.finishing).flatMap (·.2.trace.requests) =
      net.finishing.flatMap fun v => (v.fetch client net pair).trace.requests := by
    rw [entrants, List.flatMap_map]
  unfold rateOf
  dsimp only
  split
  · exact joined.trans all
  · change _ ++ [] = _
    rw [List.append_nil]
    exact joined.trans all

end Session

structure Footprint (s : Session) (net : Network) (code : Text) : Prop where
  unsupported : Pair.ofCurrency? code = none →
    (s.getRate net code).1.trace.requests = [] ∧ (s.getRate net code).1.asked = []
  borrowed : ∀ pair, Pair.ofCurrency? code = some pair → s.client.isClosed = false →
    s.client.follows = false →
    (s.getRate net code).1.trace.requests = net.finishing.map (fun v => "GET " ++ v.endpoint) ∧
      ∀ v : Venue, (v.fetch s.client net pair).result =
        v.derive net.nesting pair (v.tickerUrl pair) (net.reply (v.tickerUrl pair))
  redirected : ∀ (v : Venue) pair status body location, s.client.isClosed = false →
    s.client.follows = false → net.reply (v.tickerUrl pair) = .answer status body location →
    Client.isRedirect status = true →
    (∀ next, Client.next? (v.tickerUrl pair) status location = .ok next →
      (v.fetch s.client net pair).result = .error (.venue (.status status
        (Client.Response.shownBody ⟨v.tickerUrl pair, status, body⟩)))) ∧
    (∀ failure, Client.next? (v.tickerUrl pair) status location = .error failure →
      (v.fetch s.client net pair).result = .error failure)
  owned : ∀ pair, Pair.ofCurrency? code = some pair → s.client.isClosed = false →
    s.client.follows = true →
    ∃ (path : Venue → List Url) (last : Venue → Url),
      (∀ v : Venue, v.Routed s.client net pair (path v) (last v)) ∧
      (s.getRate net code).1.trace.requests =
        net.finishing.flatMap fun v => (path v ++ [last v]).map fun url => "GET " ++ url.text

theorem getRateFootprint (s : Session) (net : Network) (code : Text) : Footprint s net code := by
  constructor
  case unsupported =>
    intro unsupported
    rw [Session.getRateUnsupported unsupported]
    exact ⟨rfl, rfl⟩
  case borrowed =>
    intro pair supported isOpen borrowed
    refine ⟨?_, fun v => (Venue.fetchBorrowed isOpen borrowed v net pair).1⟩
    rw [Session.getRateRun supported, Session.rateRequests, ← List.flatMap_pure_eq_map]
    congr 1
    funext v
    exact (Venue.fetchBorrowed isOpen borrowed v net pair).2
  case redirected =>
    intro v pair status body location isOpen borrowed reply redirects
    rw [(Venue.fetchBorrowed isOpen borrowed v net pair).1, reply]
    exact ⟨fun next read => Venue.deriveRedirect redirects read,
      fun failure astray => Venue.deriveAstray astray⟩
  case owned =>
    intro pair supported isOpen owned
    choose path last routed using fun v : Venue => Venue.fetchRouted isOpen owned v net pair
    refine ⟨path, last, routed, ?_⟩
    rw [Session.getRateRun supported, Session.rateRequests]
    congr 1
    funext v
    exact (routed v).requests

def ownedSession : Session := ⟨true, ⟨true, false⟩, []⟩

def circleUrl : Url := ⟨"https", "", "api.binance.com", none, "/", none, none⟩

def circleLocation : Octets := "https://api.binance.com/".toUTF8.toList

def circle : Network := Network.silent.set .binance (.answer 302 [] (some circleLocation))

theorem circleLeads {url : Url} (own : url = Venue.binance.tickerUrl .usd ∨ url = circleUrl) :
    circle.reply url = .answer 302 [] (some circleLocation) ∧
      Client.next? url 302 (some circleLocation) = .ok (some circleUrl) := by
  rcases own with rfl | rfl <;> exact ⟨rfl, okOfToOption (by decide +kernel)⟩

theorem circleStays {url last : Url} {path : List Url} (route : Route circle url path last)
    (own : url = Venue.binance.tickerUrl .usd ∨ url = circleUrl) : LeadsOn circle last := by
  induction route with
  | here url =>
    obtain ⟨reply, leads⟩ := circleLeads own
    exact ⟨circleUrl, _, _, _, reply, leads⟩
  | hop lead further ih =>
    obtain ⟨reply, leads⟩ := circleLeads own
    obtain ⟨status, body, location, same, onward⟩ := lead
    rw [reply] at same
    cases same
    rw [leads] at onward
    cases onward
    exact ih (.inr rfl)

theorem circleFootprint :
    ownedSession.client = ⟨true, false⟩ ∧
      Footprint ownedSession circle (Text.ofString "usd") ∧
      (Venue.binance.fetch ownedSession.client circle .usd).trace.requests.length = 21 ∧
      (Venue.binance.fetch ownedSession.client circle .usd).result =
        .error (.venue (.unreachable "Exceeded maximum allowed redirects.")) := by
  have footprint := getRateFootprint ownedSession circle (Text.ofString "usd")
  obtain ⟨path, last, routed, _⟩ := footprint.owned .usd (by decide +kernel) rfl rfl
  have binance := routed .binance
  obtain ⟨length, exceeded⟩ := binance.exceeded (circleStays binance.route (.inl rfl))
  refine ⟨rfl, footprint, ?_, exceeded⟩
  rw [binance.requests, List.length_map, List.length_append]
  exact length

def lentSession : Session := ⟨false, ⟨false, false⟩, []⟩

def misnamed : Network :=
  (Network.silent.set .binance (.response 302 [] (some "https://xn--/"))).set
    .coinbase (.response 200 "\x7b\"bid\":1,\"ask\":3\x7d".toUTF8.toList none)

theorem misnamedStopsRate :
    lentSession.client = ⟨false, false⟩ ∧ Client.isRedirect 302 = true ∧
      misnamed.reply (Venue.binance.tickerUrl .usd) = .response 302 [] (some "https://xn--/") ∧
      (Venue.coinbase.fetch lentSession.client misnamed .usd).result =
        .ok ⟨.finite false 1 0, .finite false 3 0⟩ ∧
      (Venue.binance.fetch lentSession.client misnamed .usd).result =
        .error (.hostName .nothingEncoded) ∧
      (lentSession.getRate misnamed (Text.ofString "usd")).1.result =
        .error (.other (.hostName .nothingEncoded)) := by
  have supported : Pair.ofCurrency? (Text.ofString "usd") = some .usd := by decide +kernel
  have astray : (Venue.binance.fetch lentSession.client misnamed .usd).result =
      .error (.hostName .nothingEncoded) :=
    (Venue.fetchBorrowed rfl rfl .binance misnamed .usd).1.trans (Venue.deriveAstray rfl)
  have order : misnamed.finishing = Venue.all := rfl
  have first : ((Session.entrants lentSession.client misnamed .usd misnamed.finishing).findSome?
      fun entrant => Panel.escape? entrant.2) = some (.hostName .nothingEncoded) := by
    simp [order, Session.entrants, Venue.all, Panel.escape?, astray]
  refine ⟨rfl, rfl, rfl, okOfToOption (by decide +kernel), astray, ?_⟩
  rw [Session.getRateResult supported, Session.rateOf]
  simp only [Panel.joinFails first]

end QuorumRate
