import QuorumRate.Decimal.Arithmetic
/-! Binary floating-point numbers of 64 bits, by significand and exponent, and the one nearest to a
ratio of whole numbers. All of it is exact arithmetic on whole numbers. -/
namespace QuorumRate

/-- A 64-bit binary number. A finite one is the significand times two to the exponent; the
significand is below `2^53`, and below `2^52` only with the smallest exponent. -/
inductive Binary64
  | finite (negative : Bool) (significand : Nat) (exponent : Int)
  | infinity (negative : Bool)
  | nan
  deriving DecidableEq, Repr

namespace Binary64

def minExponent : Int := -1074

def maxExponent : Int := 971

def significandAt (num den : Nat) (exponent : Int) : Nat :=
  Decimal.divideHalfEven (num * Nat.pow 2 (-exponent).toNat) (den * Nat.pow 2 exponent.toNat)

def exponentOf (num den : Nat) : Int :=
  let low : Int := (Nat.log2 num : Int) - Nat.log2 den - 53
  let wide := den * Nat.pow 2 low.toNat * Nat.pow 2 53 ≤ num * Nat.pow 2 (-low).toNat
  max minExponent (if wide then low + 1 else low)

def ofRatio (negative : Bool) (num den : Nat) : Binary64 :=
  if num = 0 then .finite negative 0 minExponent
  else
    let exponent := exponentOf num den
    let significand := significandAt num den exponent
    let (significand, exponent) :=
      if significand = Nat.pow 2 53 then (Nat.pow 2 52, exponent + 1) else (significand, exponent)
    if maxExponent < exponent then .infinity negative else .finite negative significand exponent

def ofScientific (negative : Bool) (coefficient : Nat) (exponent : Int) : Binary64 :=
  if coefficient = 0 then .finite negative 0 minExponent
  else
    let lead := Decimal.adjusted coefficient exponent
    if 400 < lead then .infinity negative
    else if lead < -400 then .finite negative 0 minExponent
    else ofRatio negative (coefficient * Nat.pow 10 exponent.toNat) (Nat.pow 10 (-exponent).toNat)

def isNotPositive : Binary64 → Bool
  | .finite negative significand _ => negative || significand == 0
  | .infinity negative => negative
  | .nan => false

end Binary64
end QuorumRate
