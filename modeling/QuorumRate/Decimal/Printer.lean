import QuorumRate.Decimal.Basic
/-! Decimals as text: plain notation while the exponent is not positive and at most five zeros
follow the point, scientific notation otherwise. Every digit of the coefficient is written, so
reading the text gives the same sign, coefficient and exponent back. -/
namespace QuorumRate.Decimal

def plainDigits (digits : List Char) (places : Nat) : List Char :=
  if places = 0 then digits
  else if places < digits.length then
    digits.take (digits.length - places) ++ '.' :: digits.drop (digits.length - places)
  else '0' :: '.' :: (List.replicate (places - digits.length) '0' ++ digits)

def pointedDigits : List Char → List Char
  | d :: next :: rest => d :: '.' :: next :: rest
  | short => short

def signedDigits (n : Int) : List Char :=
  (if n < 0 then '-' else '+') :: Nat.toDigits 10 n.natAbs

def finiteDigits (coefficient : Nat) (exponent : Int) : List Char :=
  let digits := Nat.toDigits 10 coefficient
  let lead := adjusted coefficient exponent
  if exponent ≤ 0 && -6 ≤ lead then plainDigits digits exponent.natAbs
  else pointedDigits digits ++ 'E' :: signedDigits lead

def unsignedChars : Decimal → List Char
  | .finite _ coefficient exponent => finiteDigits coefficient exponent
  | .infinity _ => "Infinity".toList
  | .nan _ signaling payload =>
    (if signaling then "sNaN" else "NaN").toList ++
      if payload = 0 then [] else Nat.toDigits 10 payload

def isSigned : Decimal → Bool
  | .finite negative .. | .infinity negative | .nan negative .. => negative

def toChars (d : Decimal) : List Char :=
  if d.isSigned then '-' :: d.unsignedChars else d.unsignedChars

def toString (d : Decimal) : String := String.ofList d.toChars

def shown (d : Decimal) : String := "Decimal('" ++ d.toString ++ "')"

end QuorumRate.Decimal
