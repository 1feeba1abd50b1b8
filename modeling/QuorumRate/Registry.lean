import QuorumRate.Keyed
import QuorumRate.Session
/-! The registry of venues: which class serves a name. The last registration of a name counts. A
class is called on a client only when a fetcher is asked for, and that call may fail: nothing about
it is looked at when the class is registered. -/
namespace QuorumRate

/-- A class of fetchers. Its check is what a call on a client comes to, short of the instance. -/
structure FetcherClass where
  title : String
  name : String
  check : Client → Except Failure Unit

structure Fetcher where
  cls : FetcherClass
  client : Client

namespace FetcherClass

def plain (title name : String) : FetcherClass := ⟨title, name, fun _ => .ok ()⟩

def make (cls : FetcherClass) (client : Client) : Except Failure Fetcher :=
  (cls.check client).map fun _ => ⟨cls, client⟩

end FetcherClass

namespace Venue

def className : Venue → String
  | .binance => "BinanceFetcher"
  | .coinbase => "CoinbaseFetcher"
  | .gateio => "GateIoFetcher"
  | .gemini => "GeminiFetcher"
  | .kucoin => "KuCoinFetcher"
  | .mexc => "MexcFetcher"

def fetcherClass (v : Venue) : FetcherClass := .plain v.className v.name

end Venue

structure Registry where
  classes : List (String × FetcherClass)

namespace Registry

def standard : Registry := ⟨Venue.all.map fun v => (v.name, v.fetcherClass)⟩

def enroll (r : Registry) (cls : FetcherClass) : Except Misuse Registry :=
  if cls.name.isEmpty then .error (.unnamedVenue cls.title)
  else .ok ⟨Keyed.put r.classes cls.name cls⟩

def register (r : Registry) (className name : String) : Except Misuse Registry :=
  r.enroll (.plain className name)

def available (r : Registry) : List String :=
  (r.classes.map (·.1)).mergeSort fun a b => a ≤ b

def find (r : Registry) (name : String) : Except Misuse FetcherClass :=
  match Keyed.find? r.classes name with
  | some cls => .ok cls
  | none => .error (.unknownVenue name r.available)

def get (r : Registry) (name : String) : Except Misuse String := (r.find name).map (·.title)

def fetcher (r : Registry) (client : Client) (name : String) : Except Failure Fetcher := do
  let cls ← (r.find name).mapError .misuse
  cls.make client

def crew (r : Registry) (client : Client) (venues : List Venue) :
    Except Failure (List (String × Fetcher)) :=
  venues.mapM fun v => (r.fetcher client v.name).map (v.name, ·)

def start (r : Registry) (settings : Settings) (picks : List Int) :
    Except Failure (Session × List (String × Fetcher)) := do
  let session ← Session.start settings picks
  let crew ← r.crew session.client Venue.all
  return (session, crew)

end Registry
end QuorumRate
