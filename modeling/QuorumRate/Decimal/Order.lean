import QuorumRate.Decimal.Basic
/-! Numeric order of decimals: exponents are looked at before coefficients, so that numbers of very
different size are compared without scaling either. A NaN has no place in the order. -/
namespace QuorumRate.Decimal

def compareMagnitude (c₁ : Nat) (e₁ : Int) (c₂ : Nat) (e₂ : Int) : Ordering :=
  match compare (adjusted c₁ e₁) (adjusted c₂ e₂) with
  | .eq => compare (c₁ * Nat.pow 10 (e₁ - e₂).toNat) (c₂ * Nat.pow 10 (e₂ - e₁).toNat)
  | unequal => unequal

def compareFinite (n₁ : Bool) (c₁ : Nat) (e₁ : Int) (n₂ : Bool) (c₂ : Nat) (e₂ : Int) : Ordering :=
  if c₁ = 0 then
    if c₂ = 0 then .eq else if n₂ then .gt else .lt
  else if c₂ = 0 then
    if n₁ then .lt else .gt
  else
    match n₁, n₂ with
    | false, true => .gt
    | true, false => .lt
    | false, false => compareMagnitude c₁ e₁ c₂ e₂
    | true, true => compareMagnitude c₂ e₂ c₁ e₁

def compare? : Decimal → Decimal → Option Ordering
  | .nan .., _ => none
  | _, .nan .. => none
  | .infinity n₁, .infinity n₂ => some (compare n₂ n₁)
  | .infinity n, .finite .. => some (if n then .lt else .gt)
  | .finite .., .infinity n => some (if n then .gt else .lt)
  | .finite n₁ c₁ e₁, .finite n₂ c₂ e₂ => some (compareFinite n₁ c₁ e₁ n₂ c₂ e₂)

def less (a b : Decimal) : Except Signal Bool :=
  match compare? a b with
  | some order => .ok (order == .lt)
  | none => .error .invalidOperation

def isBelowZero : Decimal → Bool
  | .finite n c _ => n && c != 0
  | .infinity n => n
  | .nan .. => false

end QuorumRate.Decimal
