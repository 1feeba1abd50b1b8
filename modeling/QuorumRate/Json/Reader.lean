import QuorumRate.Decimal.Reader
import QuorumRate.Encoding.Detection
import QuorumRate.Json.Fault
import QuorumRate.Json.Value
/-! Reading JSON. A reader takes a text and gives what it read with the text that follows. A number
without fraction and exponent is whole, any other is the decimal of its very characters. A key that
comes again in an object keeps its first place and takes its last value. How deep values may nest
depends on the calls that are on the stack already, so it is given to the reader. -/
namespace QuorumRate.Json

def isBlank (c : CodePoint) : Bool := c.val == 32 || c.val == 9 || c.val == 10 || c.val == 13

def skipBlank (t : Text) : Text := t.dropWhile isBlank

def hexDigit? (c : CodePoint) : Option Nat :=
  let n := c.val
  if 48 ≤ n && n ≤ 57 then some (n - 48)
  else if 97 ≤ n && n ≤ 102 then some (n - 87)
  else if 65 ≤ n && n ≤ 70 then some (n - 55)
  else none

def unit? (a b c d : CodePoint) : Option CodePoint := do
  let a ← hexDigit? a
  let b ← hexDigit? b
  let c ← hexDigit? c
  let d ← hexDigit? d
  return .ofUnit (((a * 16 + b) * 16 + c) * 16 + d)

def escape? (c : CodePoint) : Option CodePoint :=
  if c.is '"' || c.is '\\' || c.is '/' then some c
  else if c.is 'b' then some ⟨8, by decide⟩
  else if c.is 'f' then some ⟨12, by decide⟩
  else if c.is 'n' then some ⟨10, by decide⟩
  else if c.is 'r' then some ⟨13, by decide⟩
  else if c.is 't' then some ⟨9, by decide⟩
  else none

/-- Reads an escape behind its backslash: the code point, and how many characters write it. An
escape of a high surrogate joins with one of a low one after it. At least one character has to
follow the digits of an escape. -/
def readEscape : Text → Except Fault (CodePoint × Nat)
  | [] => .error (.malformed .badEscape [])
  | e :: rest =>
    if e.is 'u' then
      match rest with
      | h₁ :: h₂ :: h₃ :: h₄ :: next :: more =>
        match unit? h₁ h₂ h₃ h₄ with
        | none => .error (.malformed .badUnicodeEscape (e :: rest))
        | some unit =>
          match more with
          | v :: l₁ :: l₂ :: l₃ :: l₄ :: _ :: _ =>
            if unit.isHighSurrogate && next.is '\\' && v.is 'u' then
              match unit? l₁ l₂ l₃ l₄ with
              | none => .error (.malformed .badUnicodeEscape more)
              | some low =>
                if low.isLowSurrogate then .ok (.ofSurrogates unit low, 11) else .ok (unit, 5)
            else .ok (unit, 5)
          | _ => .ok (unit, 5)
      | _ => .error (.malformed .badUnicodeEscape (e :: rest))
    else
      match escape? e with
      | some c => .ok (c, 1)
      | none => .error (.malformed .badEscape (⟨0x5C, by decide⟩ :: e :: rest))

/-- Reads a string to its closing quote, past the first few characters and behind the code points
found so far, last one first. The opening is the text from the opening quote on. -/
def readString (opening : Text) (found : Text) : Nat → Text → Except Fault (Text × Text)
  | _, [] => .error (.malformed .unterminatedString opening)
  | skip + 1, _ :: rest => readString opening found skip rest
  | 0, c :: rest =>
    if c.is '"' then .ok (found.reverse, rest)
    else if c.val < 0x20 then .error (.malformed .controlCharacter (c :: rest))
    else if c.is '\\' && !rest.isEmpty then
      match readEscape rest with
      | .error fault => .error fault
      | .ok (x, length) => readString opening (x :: found) length rest
    else readString opening (c :: found) 0 rest

structure NumberToken where
  sign : Text
  whole : Text
  fraction : Text
  exponent : Text

def NumberToken.text (n : NumberToken) : Text := n.sign ++ n.whole ++ n.fraction ++ n.exponent

def splitMinus : Text → Text × Text
  | [] => ([], [])
  | c :: rest => if c.is '-' then ([c], rest) else ([], c :: rest)

def splitWhole : Text → Text × Text
  | [] => ([], [])
  | c :: rest =>
    if c.is '0' then ([c], rest)
    else
      ((c :: rest).takeWhile CodePoint.isAsciiDigit, (c :: rest).dropWhile CodePoint.isAsciiDigit)

def splitFraction : Text → Text × Text
  | [] => ([], [])
  | c :: rest =>
    let digits := rest.takeWhile CodePoint.isAsciiDigit
    if c.is '.' && !digits.isEmpty then (c :: digits, rest.dropWhile CodePoint.isAsciiDigit)
    else ([], c :: rest)

def splitEitherSign : Text → Text × Text
  | [] => ([], [])
  | c :: rest => if c.is '-' || c.is '+' then ([c], rest) else ([], c :: rest)

def splitExponent : Text → Text × Text
  | [] => ([], [])
  | c :: rest =>
    let (sign, after) := splitEitherSign rest
    let digits := after.takeWhile CodePoint.isAsciiDigit
    if (c.is 'e' || c.is 'E') && !digits.isEmpty then
      (c :: (sign ++ digits), after.dropWhile CodePoint.isAsciiDigit)
    else ([], c :: rest)

def splitNumber (t : Text) : NumberToken × Text :=
  let (sign, t) := splitMinus t
  let (whole, t) := splitWhole t
  let (fraction, t) := splitFraction t
  let (exponent, t) := splitExponent t
  (⟨sign, whole, fraction, exponent⟩, t)

def NumberToken.value (n : NumberToken) : Except Fault Json :=
  if n.fraction.isEmpty && n.exponent.isEmpty then
    if Text.maxDigits < n.whole.length then .error (.longInteger n.whole.length)
    else
      let magnitude : Int := Decimal.natOfDigits n.whole
      .ok (.int (if n.sign.isEmpty then magnitude else -magnitude))
  else
    match Decimal.ofText? n.text with
    | some d => .ok (.decimal d)
    | none => .error .unholdableNumber

def readNumber (t : Text) : Except Fault (Json × Text) :=
  let (number, rest) := splitNumber t
  if number.whole.isEmpty then .error (.malformed .expectedValue t)
  else number.value.map (·, rest)

def constants : List (String × Json) := [
  ("null", .null), ("true", .bool true), ("false", .bool false), ("NaN", .real .nan),
  ("Infinity", .real (.infinity false)), ("-Infinity", .real (.infinity true))]

def readScalar (t : Text) : Except Fault (Json × Text) :=
  match constants.findSome? fun (name, v) => (t.dropWord? name).map (v, ·) with
  | some found => .ok found
  | none => readNumber t

def readItems (item : Text → Except Fault (Json × Text)) (found : List Json) :
    Nat → Text → Except Fault (List Json × Text)
  | 0, t => .error (.malformed .expectedValue t)
  | fuel + 1, t => do
    let (v, t) ← item t
    match skipBlank t with
    | [] => .error (.malformed .expectedComma [])
    | c :: rest =>
      if c.is ']' then .ok ((v :: found).reverse, rest)
      else if c.is ',' then readItems item (v :: found) fuel (skipBlank rest)
      else .error (.malformed .expectedComma (c :: rest))

def readArray (item : Text → Except Fault (Json × Text)) (t : Text) : Except Fault (Json × Text) :=
  match skipBlank t with
  | [] => .error (.malformed .expectedValue [])
  | c :: rest =>
    if c.is ']' then .ok (.array [], rest)
    else (readItems item [] (c :: rest).length (c :: rest)).map fun (vs, rest) => (.array vs, rest)

def readMember (item : Text → Except Fault (Json × Text)) :
    Text → Except Fault ((Text × Json) × Text)
  | [] => .error (.malformed .expectedName [])
  | c :: rest =>
    if c.is '"' then do
      let (key, t) ← readString (c :: rest) [] 0 rest
      match skipBlank t with
      | [] => .error (.malformed .expectedColon [])
      | colon :: rest =>
        if colon.is ':' then do
          let (v, t) ← item (skipBlank rest)
          .ok ((key, v), t)
        else .error (.malformed .expectedColon (colon :: rest))
    else .error (.malformed .expectedName (c :: rest))

def readMembers (item : Text → Except Fault (Json × Text)) (found : List (Text × Json)) :
    Nat → Text → Except Fault (List (Text × Json) × Text)
  | 0, t => .error (.malformed .expectedName t)
  | fuel + 1, t => do
    let (m, t) ← readMember item t
    match skipBlank t with
    | [] => .error (.malformed .expectedComma [])
    | c :: rest =>
      if c.is '\x7d' then .ok ((m :: found).reverse, rest)
      else if c.is ',' then readMembers item (m :: found) fuel (skipBlank rest)
      else .error (.malformed .expectedComma (c :: rest))

def readObject (item : Text → Except Fault (Json × Text)) (t : Text) : Except Fault (Json × Text) :=
  match skipBlank t with
  | [] => .error (.malformed .expectedName [])
  | c :: rest =>
    if c.is '\x7d' then .ok (.object [], rest)
    else
      (readMembers item [] (c :: rest).length (c :: rest)).map fun (members, rest) =>
        (.object (Keyed.distinct members), rest)

def readValue : Nat → Text → Except Fault (Json × Text)
  | _, [] => .error (.malformed .expectedValue [])
  | depth, c :: rest =>
    if c.is '"' then (readString (c :: rest) [] 0 rest).map fun (s, rest) => (.string s, rest)
    else if c.is '[' then
      match depth with
      | 0 => .error (.tooDeep .array)
      | depth + 1 => readArray (readValue depth) rest
    else if c.is '\x7b' then
      match depth with
      | 0 => .error (.tooDeep .object)
      | depth + 1 => readObject (readValue depth) rest
    else readScalar (c :: rest)

def readWhole (nesting : Nat) (t : Text) : Except Fault Json := do
  let (v, rest) ← readValue nesting (skipBlank t)
  match skipBlank rest with
  | [] => .ok v
  | more => .error (.malformed .extraData more)

/-- How deep values can nest where the stack has room for a thousand calls and holds a few. -/
def usualNesting : Nat := 960

def ofText (t : Text) : Except Fault Json := readWhole usualNesting t

inductive BodyFault
  | encoding (fault : Encoding.Fault)
  | text (whole : Text) (fault : Fault)
  deriving DecidableEq, Repr

def BodyFault.message : BodyFault → String
  | .encoding fault => fault.message
  | .text whole fault => fault.message whole

def ofBody (nesting : Nat) (body : Octets) : Except BodyFault Json :=
  match Encoding.read body with
  | .error fault => .error (.encoding fault)
  | .ok t =>
    match readWhole nesting t with
    | .error fault => .error (.text t fault)
    | .ok v => .ok v

end QuorumRate.Json
