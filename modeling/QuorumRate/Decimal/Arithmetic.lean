import QuorumRate.Decimal.Basic
/-! Addition and halving with twenty-eight digits. A result is the exact one rounded once to the
nearest number that fits, a half going to the even neighbour; it keeps the smaller exponent of the
operands as long as its digits fit. -/
namespace QuorumRate.Decimal

def precision : Nat := 28

def maxExponent : Int := 999999

def minExponent : Int := -1000026

def divideHalfEven (n d : Nat) : Nat :=
  let q := n / d
  let r := n % d
  if 2 * r < d then q
  else if d < 2 * r then q + 1
  else if q % 2 = 0 then q else q + 1

def dropDigits (c shift : Nat) : Nat :=
  if digitCount c < shift then 0 else divideHalfEven c (Nat.pow 10 shift)

def lastExponent (lead : Int) : Int := max minExponent (lead - (precision - 1))

def round (negative : Bool) (c : Nat) (e : Int) : Except Signal Decimal :=
  if c = 0 then .ok (.finite negative 0 (max minExponent (min maxExponent e)))
  else
    let lead := adjusted c e
    let last := lastExponent lead
    if maxExponent < lead then .error .overflow
    else if last ≤ e then .ok (.finite negative c e)
    else
      let kept := dropDigits c (last - e).toNat
      if kept = Nat.pow 10 precision then
        if maxExponent < lead + 1 then .error .overflow
        else .ok (.finite negative (Nat.pow 10 (precision - 1)) (last + 1))
      else .ok (.finite negative kept last)

def signed (negative : Bool) (c : Nat) : Int := if negative then -(c : Int) else c

def stickyExponent (c : Nat) (e : Int) : Int :=
  e - 1 + (if precision < digitCount c then 0 else (digitCount c : Int) - precision - 1)

/-- An addend that lies wholly below the other's sticky exponent is as good as a one there. -/
def standIn (c : Nat) (e : Int) (c' : Nat) (e' : Int) : Nat × Int :=
  let sticky := stickyExponent c e
  if c ≠ 0 ∧ adjusted c' e' < sticky then (min c' 1, sticky) else (c', e')

def addAligned (n : Bool) (c : Nat) (e : Int) (n' : Bool) (c' : Nat) (e' : Int) :
    Except Signal Decimal :=
  let (low, last) := standIn c e c' e'
  let sum :=
    if c = 0 then signed n' low else signed n c * Nat.pow 10 (e - last).toNat + signed n' low
  round (if sum = 0 then n && n' else sum < 0) sum.natAbs last

def passNaN : Decimal → Decimal → Option (Except Signal Decimal)
  | .nan _ true _, _ => some (.error .invalidOperation)
  | _, .nan _ true _ => some (.error .invalidOperation)
  | .nan n false p, _ => some (.ok (.nan n false (p % Nat.pow 10 precision)))
  | _, .nan n false p => some (.ok (.nan n false (p % Nat.pow 10 precision)))
  | _, _ => none

def add (a b : Decimal) : Except Signal Decimal :=
  match passNaN a b with
  | some result => result
  | none =>
    match a, b with
    | .finite n c e, .finite n' c' e' =>
      if e' ≤ e then addAligned n c e n' c' e' else addAligned n' c' e' n c e
    | .infinity n, .infinity n' => if n = n' then .ok a else .error .invalidOperation
    | .infinity _, _ => .ok a
    | _, _ => .ok b

def half (a : Decimal) : Except Signal Decimal :=
  match a with
  | .finite n c e => if c % 2 = 0 then round n (c / 2) e else round n (5 * c) (e - 1)
  | .infinity _ => .ok a
  | .nan n signaling p =>
    if signaling then .error .invalidOperation else .ok (.nan n false (p % Nat.pow 10 precision))

end QuorumRate.Decimal
