import QuorumRate.Transport.Client
/-! Tickers: where each venue keeps bid and ask in what it serves, and the quote made of them. -/
namespace QuorumRate

def Quote.ofAmounts (venue symbol : String) (bid ask : Json) :
    Except Venue.ContentFault Quote := do
  let bid ← (Amount.ofJson bid).mapError .amount
  let ask ← (Amount.ofJson ask).mapError .amount
  let quote : Quote := ⟨bid, ask⟩
  if bid.isBelowZero || ask.isBelowZero then .error (.negative venue symbol quote)
  else .ok quote

def Quote.isReversed (q : Quote) : Bool := Decimal.compare? q.ask q.bid == some .lt

def Quote.make (venue symbol : String) (bid ask : Json) : Attempt Quote :=
  match Quote.ofAmounts venue symbol bid ask with
  | .error fault => .fail (.venue (.content fault))
  | .ok quote =>
    if quote.isReversed then
      .after
        (.ofRecord .warning
          ("[" ++ venue ++ "] Crossed quote for " ++ symbol ++ ": bid=" ++ quote.bid.toString ++
            " ask=" ++ quote.ask.toString))
        (.pure quote)
    else .pure quote

namespace Venue

def sides (bid ask : String) (data : Json) : Except Json.LookupFault (Json × Json) := do
  let bid ← data.member bid
  let ask ← data.member ask
  return (bid, ask)

def tickerSides (v : Venue) (ticker : Json) : Except Json.LookupFault (Json × Json) :=
  match v with
  | .binance | .mexc => sides "bidPrice" "askPrice" ticker
  | .coinbase | .gemini => sides "bid" "ask" ticker
  | .gateio => sides "highest_bid" "lowest_ask" ticker
  | .kucoin => do sides "buy" "sell" (← ticker.member "data")

def gone : Int := 410

def ticker (v : Venue) (symbol : String) (data : Json) : Except Fault Json :=
  match v with
  | .gateio =>
    match data with
    | .array (first :: _) => .ok first
    | .array [] => .error (.status gone ("No ticker returned for " ++ symbol))
    | other => .error (.content (.notArray v.name symbol other.typeName))
  | _ => .ok data

def quoteOf (v : Venue) (symbol : String) (data : Json) : Attempt Quote :=
  match v.ticker symbol data with
  | .error fault => .fail (.venue fault)
  | .ok ticker =>
    match v.tickerSides ticker with
    | .error fault => .fail (.venue (.content (.shape v.name symbol fault)))
    | .ok (bid, ask) => Quote.make v.name symbol bid ask

def fetch (v : Venue) (client : Client) (net : Network) (pair : Pair) : Attempt Quote := do
  v.quoteOf (v.symbol pair) (← client.getJson net (v.tickerUrl pair))

end Venue
end QuorumRate
