import QuorumRate.HostName.Fault
import QuorumRate.Log
import QuorumRate.Text.Ascii
import QuorumRate.Url.Fault
import QuorumRate.Venue.Fault
/-! Attempts: computations that may fail and that leave a trace of the requests they sent and the
records they logged, whether they fail or not. -/
namespace QuorumRate

inductive Misuse
  | emptyPanel
  | emptyHeldOut
  | proxyWithClient
  | unknownVenue (name : String) (available : List String)
  | unnamedVenue (className : String)
  | unknownProxyScheme (url : Url)
  | notNumber (text : String)
  deriving DecidableEq, Repr

def Misuse.message : Misuse → String
  | .emptyPanel => "At least one fetcher is required"
  | .emptyHeldOut => "held_out must name a venue"
  | .proxyWithClient => "proxy cannot be combined with an existing client"
  | .unknownVenue name available =>
    "Unknown fetcher '" ++ name ++ "'. Available: " ++ String.intercalate ", " available
  | .unnamedVenue className => "Fetcher " ++ className ++ " must define a 'name' class variable"
  | .unknownProxyScheme url => "Unknown scheme for proxy URL " ++ url.shown
  | .notNumber text => "could not convert string to float: " ++ quoted text

inductive Refusal
  | invalidUrl
  | cookieConflict
  | stream
  deriving DecidableEq, Repr

inductive Stray
  | runtime
  | value
  | key
  | type
  deriving DecidableEq, Repr

def Stray.label : Stray → String
  | .runtime => "RuntimeError"
  | .value => "ValueError"
  | .key => "KeyError"
  | .type => "TypeError"

/-- Why an attempt has no result. Only the fault of a venue is something a quorum can bear. -/
inductive Failure
  | venue (fault : Venue.Fault)
  | arithmetic (signal : Decimal.Signal)
  | closed
  | refused (refusal : Refusal) (message : String)
  | hostName (fault : HostName.Fault)
  | beyondAscii (place : BeyondAscii)
  | misuse (fault : Misuse)
  | priceless (kind : Stray)
  | stray (kind : Stray) (message : String)

def Failure.ofUrlFault (fault : Url.Fault) : Failure := .refused .invalidUrl fault.message

def Failure.ofText? (text : String) : Option Failure :=
  (BeyondAscii.of? (Text.ofString text)).map .beyondAscii

def Failure.message : Failure → String
  | .venue fault => fault.message
  | .arithmetic .invalidOperation => "[<class 'decimal.InvalidOperation'>]"
  | .arithmetic .overflow => "[<class 'decimal.Overflow'>]"
  | .closed => "Cannot send a request, as the client has been closed."
  | .refused _ text => text
  | .hostName fault => fault.message
  | .beyondAscii place => place.message
  | .misuse fault => fault.message
  | .priceless kind => quoted kind.label ++ " object has no attribute 'price'"
  | .stray .key text => quoted text
  | .stray _ text => text

structure Trace where
  requests : List String
  records : List Log.Record
  deriving DecidableEq, Repr

namespace Trace

def empty : Trace := ⟨[], []⟩

def append (a b : Trace) : Trace := ⟨a.requests ++ b.requests, a.records ++ b.records⟩

instance : Append Trace := ⟨append⟩

def ofRecord (level : Log.Level) (message : String) : Trace := ⟨[], [⟨level, message⟩]⟩

def concat (traces : List Trace) : Trace :=
  ⟨traces.flatMap (·.requests), traces.flatMap (·.records)⟩

end Trace

structure Attempt (α : Type) where
  result : Except Failure α
  trace : Trace

namespace Attempt

variable {α β : Type}

def ofExcept (result : Except Failure α) : Attempt α := ⟨result, .empty⟩

def pure (a : α) : Attempt α := ofExcept (.ok a)

def fail (failure : Failure) : Attempt α := ofExcept (.error failure)

def bind (x : Attempt α) (f : α → Attempt β) : Attempt β :=
  match x.result with
  | .ok a => ⟨(f a).result, x.trace ++ (f a).trace⟩
  | .error failure => ⟨.error failure, x.trace⟩

instance : Monad Attempt where
  pure := pure
  bind := bind

def log (level : Log.Level) (message : String) : Attempt Unit :=
  ⟨.ok (), .ofRecord level message⟩

def after (trace : Trace) (x : Attempt α) : Attempt α := ⟨x.result, trace ++ x.trace⟩

end Attempt
end QuorumRate
