import QuorumRate.Quorum
import QuorumRate.Venue.Ticker
/-! A session: the client that all venues share, and the lots that are left to draw. A rate asked
for in a session takes nothing from earlier ones but the picks that they left. Its trace holds the
venues one by one, in the order in which they finish. -/
namespace QuorumRate

inductive Seconds
  | whole (n : Int)
  | real (x : Binary64)
  deriving DecidableEq, Repr

def Seconds.text : Seconds → String
  | .whole n => toString n
  | .real x => x.toString

def Seconds.ten : Seconds := .real (.finite false 5629499534213120 (-49))

structure TotalFailure where
  first : String × Failure
  others : List (String × Failure)

namespace TotalFailure

def ofList? : List (String × Failure) → Option TotalFailure
  | [] => none
  | first :: others => some ⟨first, others⟩

def errors (t : TotalFailure) : List (String × Failure) := t.first :: t.others

def cause (t : TotalFailure) : Failure := t.first.2

def message (t : TotalFailure) : String :=
  "All exchange requests failed (" ++ t.first.1 ++ ": " ++ t.cause.message ++ ")"

end TotalFailure

inductive RateFailure
  | total (failure : TotalFailure) (origin : Failure)
  | other (failure : Failure)

structure Settings where
  isOwned : Bool
  proxy : Option String
  timeout : Seconds
  connectTimeout : Seconds

namespace Settings

def proxySchemes : List String := ["http", "https", "socks5", "socks5h"]

def timeouts (s : Settings) : List Seconds := [s.connectTimeout, s.timeout, s.timeout, s.timeout]

def readProxy (text : String) : Except Failure Url := do
  let url ← (Url.ofText text).mapError .ofUrlFault
  if proxySchemes.contains url.scheme then
    if url.hasCredentials then url.withoutCredentials.mapError .ofUrlFault else .ok url
  else .error (.misuse (.unknownProxyScheme url))

def proxyFailure? (text : String) : Option Failure :=
  match readProxy text with
  | .ok url => Failure.ofText? url.host
  | .error failure => some failure

def check (s : Settings) : Except Failure Unit :=
  match s.proxy with
  | none => .ok ()
  | some text =>
    if s.isOwned then (proxyFailure? text).elim (.ok ()) .error
    else .error (.misuse .proxyWithClient)

def record (s : Settings) : Log.Record :=
  ⟨.debug, "ExchangeRateClient initialized: venues=[" ++
    String.intercalate ", " (Venue.all.map fun v => quoted v.name) ++ "], held_out=" ++
    Venue.heldOut.name ++ ", proxied=" ++ if s.proxy.isSome then "True" else "False"⟩

end Settings

structure Session where
  isOwned : Bool
  client : Client
  picks : List Int
  deriving DecidableEq, Repr

structure RateRun where
  result : Except RateFailure (Option Decimal)
  trace : Trace
  asked : List Nat
  picks : List Int

namespace Session

def start (settings : Settings) (picks : List Int) : Except Failure Session := do
  settings.check
  return ⟨settings.isOwned, ⟨settings.isOwned, false⟩, picks⟩

def entrants (client : Client) (net : Network) (pair : Pair) (venues : List Venue) :
    List Entrant :=
  venues.map fun v => (v.name, v.fetch client net pair)

def settle (pair : Pair) (picks : List Int) (outcomes : List (String × Outcome)) : RateRun :=
  let run := Quorum.aggregate Venue.heldOut.name picks outcomes
  let after : Except RateFailure (Option Decimal) × List Log.Record :=
    match run.result with
    | .error signal => (.error (.other (.arithmetic signal)), [])
    | .ok report =>
      match report.price, report.metadata.seats with
      | some price, some seats =>
        (.ok (some price),
          [⟨.info, pair.text ++ " rate " ++ price.toString ++ " from " ++ seats.medianSource ++
            " (" ++ toString seats.count ++ " of " ++ toString outcomes.length ++ " venues used)"⟩])
      | _, _ =>
        let errors := report.errors.map fun (name, fault) => (name, Failure.venue fault)
        match TotalFailure.ofList? errors with
        | some failure =>
          (.error (.total failure failure.cause),
            [⟨.error, "All exchange requests failed for " ++ pair.text⟩])
        | none => (.ok none, [])
  ⟨after.1, ⟨[], run.records ++ after.2⟩, run.asked, run.picks⟩

def rateOf (client : Client) (net : Network) (picks : List Int) (pair : Pair) : RateRun :=
  let panel := entrants client net pair
  let joined := Panel.join pair (panel Venue.all) (panel net.finishing)
  match joined.result with
  | .error failure => ⟨.error (.other failure), joined.trace, [], picks⟩
  | .ok outcomes =>
    let run := settle pair picks outcomes
    { run with trace := joined.trace ++ run.trace }

def rateIn (client : Client) (net : Network) (picks : List Int) (code : Text) : RateRun :=
  match Pair.ofCurrency? code with
  | some pair => rateOf client net picks pair
  | none =>
    ⟨.ok none, .ofRecord .info ("Currency " ++ code.quoted ++ " is not supported"), [], picks⟩

def getRate (s : Session) (net : Network) (code : Text) : RateRun × Session :=
  let run := rateIn s.client net s.picks code
  (run, { s with picks := run.picks })

def closeClient (s : Session) : Session := { s with client := { s.client with isClosed := true } }

def close (s : Session) : Session := if s.isOwned then s.closeClient else s

def getLastRate (s : Session) (net : Network) (code : Text) : RateRun × Session :=
  let (run, later) := s.getRate net code
  (run, later.close)

end Session
end QuorumRate
