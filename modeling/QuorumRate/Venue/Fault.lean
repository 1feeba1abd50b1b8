import QuorumRate.Json.Reader
import QuorumRate.Quote.Amount
import QuorumRate.Quote.Basic
import QuorumRate.Url.Basic
/-! What can be wrong with a venue, so that it loses its vote while the others keep theirs. -/
namespace QuorumRate

inductive Venue.ContentFault
  | body (url : Url) (fault : Json.BodyFault)
  | amount (fault : Amount.Fault)
  | negative (venue symbol : String) (quote : Quote)
  | shape (venue symbol : String) (fault : Json.LookupFault)
  | notArray (venue symbol typeName : String)
  | reported (message : String)

def Venue.ContentFault.message : Venue.ContentFault → String
  | .body url fault => "Invalid JSON from " ++ url.text ++ ": " ++ fault.message
  | .amount fault => fault.message
  | .negative venue symbol quote =>
    "[" ++ venue ++ "] Negative quote for " ++ symbol ++ ": bid=" ++ quote.bid.toString ++
      " ask=" ++ quote.ask.toString
  | .shape venue symbol fault =>
    "[" ++ venue ++ "] Unexpected response for " ++ symbol ++ ": " ++ fault.shown
  | .notArray venue symbol typeName =>
    "[" ++ venue ++ "] Expected a list for " ++ symbol ++ ", got " ++ typeName
  | .reported message => message

inductive Venue.Fault
  | timeout (message : String)
  | unreachable (message : String)
  | status (code : Int) (text : String)
  | content (fault : Venue.ContentFault)
  | reported (message : String)

namespace Venue.Fault

def message : Venue.Fault → String
  | .timeout text => "Request timeout: " ++ text
  | .unreachable text => "Request failed: " ++ text
  | .status code text => "HTTP " ++ toString code ++ ": " ++ text
  | .content fault => fault.message
  | .reported text => text

def label : Venue.Fault → String
  | .status .. => "FetcherHTTPError"
  | .content _ => "FetcherDecodeError"
  | _ => "FetcherError"

def shown (f : Venue.Fault) : String := f.label ++ "(" ++ quoted f.message ++ ")"

end Venue.Fault

abbrev Outcome := Except Venue.Fault Quote

def Outcome.shown : Outcome → String
  | .ok quote => quote.shown
  | .error fault => fault.shown

end QuorumRate
