/-! Decimal numbers as sign, coefficient and exponent, with the infinities and both kinds of NaN.
Numbers that are equal in value may differ in exponent, and that difference is kept: `1.50` is not
`1.5`. Nothing here computes a power of ten from an exponent, which may have eighteen digits. -/
namespace QuorumRate

inductive Decimal
  | finite (negative : Bool) (coefficient : Nat) (exponent : Int)
  | infinity (negative : Bool)
  | nan (negative signaling : Bool) (payload : Nat)
  deriving DecidableEq, Repr

inductive Decimal.Signal
  | invalidOperation
  | overflow
  deriving DecidableEq, Repr

namespace Decimal

def digitCount (n : Nat) : Nat := (Nat.toDigits 10 n).length

def adjusted (coefficient : Nat) (exponent : Int) : Int :=
  exponent + digitCount coefficient - 1

def ofInt (n : Int) : Decimal := .finite (n < 0) n.natAbs 0

def isFinite : Decimal → Bool
  | .finite .. => true
  | _ => false

def isNaN : Decimal → Bool
  | .nan .. => true
  | _ => false

end Decimal
end QuorumRate
