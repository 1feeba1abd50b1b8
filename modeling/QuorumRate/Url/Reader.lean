import QuorumRate.Decimal.Reader
import QuorumRate.Text.Number
import QuorumRate.Url.Basic
import QuorumRate.Url.Host
/-! Reading addresses. A text is first cut at the marks that separate the parts of an address; then
each part is brought into normal form, which is where it can turn out to be wrong. -/
namespace QuorumRate.Url

def cutAt (marks : String) (cs : List Char) : List Char × List Char :=
  (cs.takeWhile (!marks.toList.contains ·), cs.dropWhile (!marks.toList.contains ·))

structure Spelled where
  scheme : List Char
  authority : List Char
  path : List Char
  query : Option (List Char)
  fragment : Option (List Char)
  deriving DecidableEq, Repr

namespace Spelled

def isSchemeCharacter (c : Char) : Bool := c.isAlphanum || c == '+' || c == '.' || c == '-'

def cutScheme (cs : List Char) : List Char × List Char :=
  let scheme := cs.takeWhile isSchemeCharacter
  match cs.dropWhile isSchemeCharacter with
  | ':' :: rest => if scheme.head?.all Char.isAlpha then (scheme, rest) else ([], cs)
  | _ => ([], cs)

def cutAuthority : List Char → List Char × List Char
  | '/' :: '/' :: rest => cutAt "/?#" rest
  | cs => ([], cs)

def cutMarked (mark : Char) (ends : String) : List Char → Option (List Char) × List Char
  | [] => (none, [])
  | c :: rest =>
    if c = mark then
      let (part, rest) := cutAt ends rest
      (some part, rest)
    else (none, c :: rest)

def ofText (cs : List Char) : Spelled :=
  let (scheme, cs) := cutScheme cs
  let (authority, cs) := cutAuthority cs
  let (path, cs) := cutAt "?#" cs
  let (query, cs) := cutMarked '?' "#" cs
  let (fragment, _) := cutMarked '#' "" cs
  ⟨scheme, authority, path, query, fragment⟩

end Spelled

structure SpelledAuthority where
  userinfo : List Char
  host : List Char
  port : List Char
  deriving DecidableEq, Repr

def cutHost (cs : List Char) : List Char × List Char :=
  let bracketed := (cs.reverse.dropWhile (· != ']')).reverse
  if cs.head? = some '[' && !bracketed.isEmpty then (bracketed, cs.drop bracketed.length)
  else cutAt ":" cs

def SpelledAuthority.ofText (cs : List Char) : SpelledAuthority :=
  let behindUser := (cs.reverse.takeWhile (· != '@')).reverse
  let (host, rest) := cutHost behindUser
  ⟨(cs.take (cs.length - behindUser.length)).dropLast, host,
    if rest.head? = some ':' then rest.drop 1 else rest⟩

def defaultPort? : String → Option Int
  | "ftp" => some 21
  | "http" | "ws" => some 80
  | "https" | "wss" => some 443
  | _ => none

def wholeNumber? (cs : List Char) : Option Int := do
  let (negative, digits) := Decimal.splitSign (← Text.typedNumber? (cs.map CodePoint.ofChar))
  if digits.isEmpty || Text.maxDigits < digits.length then none
  else if digits.all CodePoint.isAsciiDigit then
    let n : Int := Decimal.natOfDigits digits
    return if negative then -n else n
  else none

def readPort (scheme : String) (port : List Char) : Except Fault (Option Int) :=
  if port = [] then .ok none
  else
    match wholeNumber? port with
    | none => .error (.port (String.ofList port))
    | some n => .ok (if defaultPort? scheme = some n then none else some n)

def step (above : List (List Char)) (segment : List Char) : List (List Char) :=
  if segment = ['.'] then above
  else if segment = ['.', '.'] then above.tail
  else segment :: above

def enter (above : List (List Char)) (segment : List Char) : List (List Char) :=
  if segment = ['.', '.'] && above = [[]] then above else step above segment

def normalPath (path : List Char) : List Char :=
  List.intercalate ['/'] ((pieces (· == '/') path).foldl enter []).reverse

def pathFault? (hasScheme hasAuthority : Bool) (path : List Char) : Option Fault :=
  if hasAuthority then
    if path.head?.all (· == '/') then none else some .rootlessPath
  else if hasScheme then none
  else if path.take 2 = ['/', '/'] then some .emptySegmentFirst
  else if path.head? = some ':' then some .colonFirst
  else none

def Spelled.read (s : Spelled) : Except Fault Url := do
  let authority := SpelledAuthority.ofText s.authority
  let userinfo := escape .userinfo authority.userinfo
  let host ← readHost authority.host
  let port ← readPort (String.ofList s.scheme) authority.port
  let hasScheme := !s.scheme.isEmpty
  let hasAuthority := !userinfo.isEmpty || host != "" || port.isSome
  match pathFault? hasScheme hasAuthority s.path with
  | some fault => .error fault
  | none =>
    let path := if hasScheme || hasAuthority then normalPath s.path else s.path
    return {
      scheme := String.ofList (s.scheme.map Char.toLower)
      userinfo := String.ofList userinfo
      host
      port
      path := String.ofList (escape .path path)
      query := s.query.map fun q => String.ofList (escape .query q)
      fragment := s.fragment.map fun f => String.ofList (escape .fragment f) }

def control? (cs : List Char) : Option (Char × Nat) :=
  let isControl := fun (c : Char) => c.toNat < 0x20 || c.toNat == 0x7F
  (cs.find? isControl).map fun c => (c, cs.findIdx isControl)

def maxLength : Nat := 65536

def ofText (text : String) : Except Fault Url :=
  let cs := text.toList
  if maxLength < cs.length then .error .tooLong
  else
    match control? cs with
    | some (c, position) => .error (.control c position)
    | none => (Spelled.ofText cs).read

end QuorumRate.Url
