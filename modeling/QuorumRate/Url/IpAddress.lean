import QuorumRate.Text.CodePoint
/-! Numeric addresses of hosts: four decimal numbers with points between them, or eight hexadecimal
ones with colons, where one run of zeros may be left out and two numbers may be written as four. -/
namespace QuorumRate.Url

def pieces (isSeparator : Char → Bool) : List Char → List (List Char)
  | [] => [[]]
  | c :: rest =>
    if isSeparator c then [] :: pieces isSeparator rest
    else
      match pieces isSeparator rest with
      | [] => [[c]]
      | first :: others => (c :: first) :: others

def looksLikeIpv4 (host : List Char) : Bool :=
  let rows := pieces (· == '.') host
  rows.length = 4 && rows.all fun row => !row.isEmpty && row.all Char.isDigit

def isIpv4Number (digits : List Char) : Bool :=
  !digits.isEmpty && digits.length ≤ 3 && digits.all Char.isDigit &&
    (digits = ['0'] || digits.head? != some '0') &&
    digits.foldl (fun n d => n * 10 + (d.toNat - 48)) 0 ≤ 255

def isIpv4 (host : List Char) : Bool :=
  let numbers := pieces (· == '.') host
  numbers.length = 4 && numbers.all isIpv4Number

def isIpv6Number (digits : List Char) : Bool :=
  !digits.isEmpty && digits.length ≤ 4 && digits.all fun c =>
    c.isDigit || ('a' ≤ c && c ≤ 'f') || ('A' ≤ c && c ≤ 'F')

def ipv6Head? (row : List Char) : Option Nat :=
  if row = [] then some 0
  else
    let numbers := pieces (· == ':') row
    if numbers.all isIpv6Number then some numbers.length else none

def ipv6Tail? (row : List Char) : Option Nat :=
  let numbers := pieces (· == ':') row
  match numbers.getLast? with
  | none => none
  | some last =>
    if isIpv4 last then
      if numbers.dropLast.all isIpv6Number then some (numbers.length + 1) else none
    else ipv6Head? row

def splitDoubleColon? : List Char → Option (List Char × List Char)
  | ':' :: ':' :: rest => some ([], rest)
  | c :: rest => (splitDoubleColon? rest).map fun (head, tail) => (c :: head, tail)
  | [] => none

def isIpv6Numeric (host : List Char) : Bool :=
  match splitDoubleColon? host with
  | none => ipv6Tail? host == some 8
  | some (head, tail) =>
    match ipv6Head? head, ipv6Tail? tail with
    | some m, some n => m + n ≤ 7
    | _, _ => false

def isIpv6 (host : List Char) : Bool :=
  let zone := host.dropWhile (· != '%')
  isIpv6Numeric (host.takeWhile (· != '%')) &&
    (zone.isEmpty || (zone ≠ ['%'] && zone.count '%' = 1))

end QuorumRate.Url
