import QuorumRate.Pair
import QuorumRate.Url.Basic
/-! The six venues, in the order in which they are asked, with their symbols and addresses. -/
namespace QuorumRate

inductive Venue
  | binance
  | coinbase
  | gateio
  | gemini
  | kucoin
  | mexc
  deriving DecidableEq, Repr

namespace Venue

def all : List Venue := [.binance, .coinbase, .gateio, .gemini, .kucoin, .mexc]

def name : Venue → String
  | .binance => "binance"
  | .coinbase => "coinbase"
  | .gateio => "gateio"
  | .gemini => "gemini"
  | .kucoin => "kucoin"
  | .mexc => "mexc"

def ofName? (name : String) : Option Venue := all.find? (·.name = name)

def heldOut : Venue := .gemini

def symbol : Venue → Pair → String
  | .binance, .usd => "ZECUSDT"
  | .coinbase, .usd => "ZEC-USD"
  | .gateio, .usd => "ZEC_USDT"
  | .gemini, .usd => "zecusd"
  | .kucoin, .usd => "ZEC-USDT"
  | .mexc, .usd => "ZECUSDT"

def host : Venue → String
  | .binance => "api.binance.com"
  | .coinbase => "api.exchange.coinbase.com"
  | .gateio => "api.gateio.ws"
  | .gemini => "api.gemini.com"
  | .kucoin => "api.kucoin.com"
  | .mexc => "api.mexc.com"

def tickerPath : Venue → Pair → String
  | .binance, _ | .mexc, _ => "/api/v3/ticker/24hr"
  | .coinbase, p => "/products/" ++ symbol .coinbase p ++ "/ticker"
  | .gateio, _ => "/api/v4/spot/tickers"
  | .gemini, p => "/v2/ticker/" ++ symbol .gemini p
  | .kucoin, _ => "/api/v1/market/stats"

def tickerQuery : Venue → Pair → Option String
  | .gateio, p => some ("currency_pair=" ++ symbol .gateio p)
  | .coinbase, _ | .gemini, _ => none
  | v, p => some ("symbol=" ++ v.symbol p)

def url (v : Venue) (path : String) (query : Option String) : Url :=
  ⟨"https", "", v.host, none, path, query, none⟩

def tickerUrl (v : Venue) (p : Pair) : Url := v.url (v.tickerPath p) (v.tickerQuery p)

end Venue

def Pair.symbol? (p : Pair) (venue : String) : Option String :=
  (Venue.ofName? venue).map (·.symbol p)

end QuorumRate
