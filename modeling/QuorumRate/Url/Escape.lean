import QuorumRate.Encoding.Utf8
/-! Escapes in addresses: a percent sign and two hexadecimal digits stand for an octet. Each part of
an address has characters of its own that it cannot hold as they are. -/
namespace QuorumRate.Url

inductive Part
  | userinfo
  | host
  | path
  | query
  | fragment
  deriving DecidableEq, Repr

def Part.reserved : Part → String
  | .userinfo => "\"#<>?`\x7b\x7d/;=@[\\]^|"
  | .host => "#/:<>?@[]^"
  | .path => "\"#<>?`\x7b\x7d"
  | .query => "\"#<>"
  | .fragment => "\"<>`"

def Part.holds (part : Part) (c : Char) : Bool :=
  0x20 < c.toNat && c.toNat < 0x7F && !part.reserved.toList.contains c

def hexDigit (n : Nat) : Char := if n < 10 then Char.ofNat (48 + n) else Char.ofNat (55 + n)

def hexValue? (c : Char) : Option Nat :=
  let n := c.toNat
  if 48 ≤ n && n ≤ 57 then some (n - 48)
  else if 65 ≤ n && n ≤ 70 then some (n - 55)
  else if 97 ≤ n && n ≤ 102 then some (n - 87)
  else none

def escapeOctet (b : UInt8) : List Char :=
  ['%', hexDigit (b.toNat / 16), hexDigit (b.toNat % 16)]

def octetsOf (c : Char) : Octets := Encoding.Utf8.encode (.ofChar c)

def escape (part : Part) (cs : List Char) : List Char :=
  cs.flatMap fun c => if part.holds c then [c] else (octetsOf c).flatMap escapeOctet

def unescapedOctets : List Char → Octets
  | [] => []
  | '%' :: a :: b :: rest =>
    match hexValue? a, hexValue? b with
    | some high, some low => .ofNat (16 * high + low) :: unescapedOctets rest
    | _, _ => octetsOf '%' ++ unescapedOctets (a :: b :: rest)
  | c :: rest => octetsOf c ++ unescapedOctets rest

def unescape (s : String) : List Char :=
  (Encoding.decodeLossy Encoding.Utf8.cut (unescapedOctets s.toList)).map CodePoint.toChar

end QuorumRate.Url
