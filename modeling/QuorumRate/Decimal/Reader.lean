import QuorumRate.Decimal.Basic
import QuorumRate.Text.Blank
import QuorumRate.Text.DecimalDigit
/-! Reading decimals exactly. White space around the number and underscores anywhere in it are
skipped, digits of every script count, and case is ignored. A number whose exponent is out of
bounds is refused rather than rounded. -/
namespace QuorumRate.Decimal

def natOfDigits (digits : Text) : Nat := digits.foldl (fun n d => n * 10 + (d.val - 48)) 0

def maxReadExponent : Int := 999999999999999999

def minReadExponent : Int := -1999999999999999997

def isReadable (coefficient : Nat) (exponent : Int) : Bool :=
  minReadExponent ≤ exponent &&
    (if coefficient = 0 then exponent else adjusted coefficient exponent) ≤ maxReadExponent

def splitSign : Text → Bool × Text
  | [] => (false, [])
  | c :: rest =>
    if c.is '-' then (true, rest) else if c.is '+' then (false, rest) else (false, c :: rest)

def splitFraction : Text → Text × Text
  | [] => ([], [])
  | c :: rest =>
    if c.is '.' then (rest.takeWhile CodePoint.isAsciiDigit, rest.dropWhile CodePoint.isAsciiDigit)
    else ([], c :: rest)

def exponentPart? : Text → Option Int
  | [] => some 0
  | c :: rest =>
    let (negative, digits) := splitSign rest
    if c.is 'e' && !digits.isEmpty && digits.all CodePoint.isAsciiDigit then
      let n : Int := natOfDigits digits
      some (if negative then -n else n)
    else none

def unsigned? (t : Text) : Option (Nat × Int) :=
  let whole := t.takeWhile CodePoint.isAsciiDigit
  let (fraction, rest) := splitFraction (t.dropWhile CodePoint.isAsciiDigit)
  if whole.isEmpty && fraction.isEmpty then none
  else (exponentPart? rest).map fun e => (natOfDigits (whole ++ fraction), e - fraction.length)

def payload? (t : Text) : Option Nat :=
  if t.all CodePoint.isAsciiDigit then some (natOfDigits t) else none

def ofPlain? (t : Text) : Option Decimal :=
  let (negative, body) := splitSign t
  if body = Text.ofString "inf" || body = Text.ofString "infinity" then some (.infinity negative)
  else match body.dropWord? "nan", body.dropWord? "snan" with
    | some rest, _ => (payload? rest).map (.nan negative false)
    | none, some rest => (payload? rest).map (.nan negative true)
    | none, none => do
      let (coefficient, exponent) ← unsigned? body
      if isReadable coefficient exponent then some (.finite negative coefficient exponent) else none

def ofText? (t : Text) : Option Decimal :=
  ofPlain? (Text.foldCase ((t.trim.filter fun c => !c.is '_').map CodePoint.foldDigit))

end QuorumRate.Decimal
