import QuorumRate.Decimal.Reader
import QuorumRate.Json.Value
/-! Amounts: the numbers that a quote may be made of, out of a decoded value. An amount is a whole
number, a decimal or the text of one, finite, and zero or of a size between `10^-28` and
`10^29`. Nothing is rounded. -/
namespace QuorumRate.Amount

def maxLead : Int := 28

inductive Fault
  | notNumber (v : Json)
  | unreadable (v : Json)
  | notFinite (v : Json)
  | outOfRange (v : Json)

def Fault.message : Fault → String
  | .notNumber v => "Expected a number, got " ++ v.shown
  | .unreadable v => "Invalid number " ++ v.shown
  | .notFinite v => "Non-finite number " ++ v.shown
  | .outOfRange v => "Number out of range " ++ v.shown

def decimalOf (v : Json) : Except Fault Decimal :=
  match v with
  | .int n => .ok (.ofInt n)
  | .decimal d => .ok d
  | .string t =>
    match Decimal.ofText? t with
    | some d => .ok d
    | none => .error (.unreadable v)
  | _ => .error (.notNumber v)

def inRange (coefficient : Nat) (exponent : Int) : Bool :=
  coefficient = 0 || (Decimal.adjusted coefficient exponent).natAbs ≤ maxLead

def ofJson (v : Json) : Except Fault Decimal := do
  match ← decimalOf v with
  | .finite n c e => if inRange c e then .ok (.finite n c e) else .error (.outOfRange v)
  | _ => .error (.notFinite v)

end QuorumRate.Amount
