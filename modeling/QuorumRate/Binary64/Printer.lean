import QuorumRate.Binary64.Basic
import QuorumRate.Decimal.Printer
/-! Binary numbers as text: the fewest digits that read back as the same number, and of those the
nearest to it. Positional from `0.0001` to below `10^16`, with at least one place; scientific with
a two-digit exponent outside that range. -/
namespace QuorumRate.Binary64

/-- A number in quarters of its last bit, as a ratio, with the ends of the interval that rounds to
it. The lower end is nearer where the next smaller number has half the spacing. -/
structure Interval where
  low : Nat
  mid : Nat
  high : Nat
  den : Nat
  closed : Bool

def interval (significand : Nat) (exponent : Int) : Interval :=
  let scale := Nat.pow 2 (exponent - 2).toNat
  let narrow := significand = Nat.pow 2 52 ∧ minExponent < exponent
  { low := (4 * significand - if narrow then 1 else 2) * scale
    mid := 4 * significand * scale
    high := (4 * significand + 2) * scale
    den := Nat.pow 2 (2 - exponent).toNat
    closed := significand % 2 = 0 }

def leadingExponent (num den : Nat) : Nat → Int
  | 0 => 0
  | limit + 1 =>
    if den ≤ num then (Decimal.digitCount (num / den) : Int) - 1
    else leadingExponent (num * 10) den limit - 1

def Interval.holds (i : Interval) (digits : Nat) (place : Int) : Bool :=
  let x := digits * Nat.pow 10 place.toNat * i.den
  let unit := Nat.pow 10 (-place).toNat
  if i.closed then i.low * unit ≤ x && x ≤ i.high * unit
  else i.low * unit < x && x < i.high * unit

def Interval.candidate? (i : Interval) (place : Int) : Option Nat :=
  let num := i.mid * Nat.pow 10 (-place).toNat
  let den := i.den * Nat.pow 10 place.toNat
  let below := num / den
  let above := below + 1
  match i.holds below place, i.holds above place with
  | false, false => none
  | true, false => some below
  | false, true => some above
  | true, true => some (Decimal.divideHalfEven num den)

def Interval.shortest (i : Interval) (place : Int) : Nat → Nat × Int
  | 0 =>
    (Decimal.divideHalfEven (i.mid * Nat.pow 10 (-place).toNat) (i.den * Nat.pow 10 place.toNat),
      place)
  | more + 1 =>
    match i.candidate? place with
    | some digits => (digits, place)
    | none => i.shortest (place - 1) more

def shortest (significand : Nat) (exponent : Int) : Nat × Int :=
  let i := interval significand exponent
  i.shortest (leadingExponent i.mid i.den 400) 16

def dropZeros (digits : Nat) (place : Int) : Nat → Nat × Int
  | 0 => (digits, place)
  | more + 1 =>
    if digits % 10 = 0 then dropZeros (digits / 10) (place + 1) more else (digits, place)

def exponentChars (n : Int) : List Char :=
  let digits := Nat.toDigits 10 n.natAbs
  (if n < 0 then '-' else '+') :: (List.replicate (2 - digits.length) '0' ++ digits)

def layout (digits : Nat) (place : Int) : List Char :=
  let chars := Nat.toDigits 10 digits
  let lead := Decimal.adjusted digits place
  if -4 ≤ lead && lead < 16 then
    if 0 ≤ place then chars ++ List.replicate place.toNat '0' ++ ['.', '0']
    else Decimal.plainDigits chars place.natAbs
  else Decimal.pointedDigits chars ++ 'e' :: exponentChars lead

def toString : Binary64 → String
  | .nan => "nan"
  | .infinity negative => if negative then "-inf" else "inf"
  | .finite negative significand exponent =>
    let chars :=
      if significand = 0 then ['0', '.', '0']
      else
        let (digits, place) := shortest significand exponent
        let (digits, place) := dropZeros digits place 16
        layout digits place
    String.ofList (if negative then '-' :: chars else chars)

end QuorumRate.Binary64
