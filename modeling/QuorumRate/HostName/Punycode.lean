import QuorumRate.Text.CodePoint
/-! Punycode: a text of any script in letters, digits and hyphens. The ASCII of the text comes first
as it is. Then its other code points follow in ascending order, each as the count of places that
were passed over since the one before, a place being a code point together with a position. -/
namespace QuorumRate.HostName.Punycode

def digit (n : Nat) : Char := if n < 26 then Char.ofNat (97 + n) else Char.ofNat (22 + n)

def threshold (bias position : Nat) : Nat := min 26 (max 1 (position - bias))

theorem threshold_bounds (bias position : Nat) :
    1 ≤ threshold bias position ∧ threshold bias position ≤ 26 := by
  unfold threshold
  omega

def digits (bias position count : Nat) : List Char :=
  let t := threshold bias position
  if count < t then [digit count]
  else digit (t + (count - t) % (36 - t)) :: digits bias (position + 36) ((count - t) / (36 - t))
termination_by count
decreasing_by
  have bounds := threshold_bounds bias position
  exact Nat.lt_of_le_of_lt (Nat.div_le_self _ _) (by omega)

def settle (count bias : Nat) : Nat :=
  if 455 < count then settle (count / 35) (bias + 36) else bias + 36 * count / (count + 38)
termination_by count
decreasing_by exact Nat.div_lt_self (by omega) (by omega)

def adapt (count placed : Nat) (isFirst : Bool) : Nat :=
  let damped := if isFirst then count / 700 else count / 2
  settle (damped + damped / placed) 0

/-- How far writing has come: the digits so far, last one first, the places passed over since, the
bias, and how many code points are placed, the ASCII ones included. -/
structure Progress where
  written : List Char
  passed : Nat
  bias : Nat
  placed : Nat
  isFirst : Bool

def Progress.visit (n : Nat) (p : Progress) (c : CodePoint) : Progress :=
  if c.val < n then { p with passed := p.passed + 1 }
  else if c.val = n then
    { written := (digits p.bias 36 p.passed).reverse ++ p.written
      passed := 0
      bias := adapt p.passed (p.placed + 1) p.isFirst
      placed := p.placed + 1
      isFirst := false }
  else p

def smallestFrom? (bound : Nat) (t : Text) : Option Nat :=
  ((t.map (·.val)).filter (bound ≤ ·)).min?

def rounds (t : Text) : Nat → Nat → Progress → Progress
  | 0, _, p => p
  | left + 1, bound, p =>
    match smallestFrom? bound t with
    | none => p
    | some n =>
      let p := { p with passed := p.passed + (n - bound) * (p.placed + 1) }
      let p := t.foldl (Progress.visit n) p
      rounds t left (n + 1) { p with passed := p.passed + 1 }

def encode (t : Text) : List Char :=
  let basic := (t.filter (·.val < 128)).map CodePoint.toChar
  let start : Progress := ⟨[], 0, 72, basic.length, true⟩
  basic ++ (if basic.isEmpty then [] else ['-']) ++ (rounds t t.length 128 start).written.reverse

def digitValue? (c : CodePoint) : Option Nat :=
  let n := c.foldCase.val
  if 97 ≤ n && n ≤ 122 then some (n - 97)
  else if 48 ≤ n && n ≤ 57 then some (n - 22)
  else none

def readCount? (bias position weight before : Nat) : Text → Option (Nat × Text)
  | [] => none
  | c :: rest =>
    match digitValue? c with
    | none => none
    | some n =>
      let t := threshold bias position
      let count := before + n * weight
      if n < t then some (count, rest)
      else readCount? bias (position + 36) (weight * (36 - t)) count rest

structure Reading where
  text : Text
  point : Nat
  position : Nat
  bias : Nat
  isFirst : Bool

def Reading.put? (r : Reading) (count : Nat) : Option Reading :=
  let size := r.text.length + 1
  let point := r.point + (r.position + count) / size
  let position := (r.position + count) % size
  if h : point < 0x110000 then
    some {
      text := r.text.take position ++ ⟨point, h⟩ :: r.text.drop position
      point
      position := position + 1
      bias := adapt count size r.isFirst
      isFirst := false }
  else none

def readAll? : Nat → Text → Reading → Option Text
  | _, [], r => some r.text
  | 0, _, _ => none
  | left + 1, digits, r => do
    let (count, rest) ← readCount? r.bias 36 1 0 digits
    readAll? left rest (← r.put? count)

def decode? (t : Text) : Option Text :=
  let digits := (t.reverse.takeWhile fun c => !c.is '-').reverse
  let basic := (t.take (t.length - digits.length)).dropLast
  readAll? digits.length digits ⟨basic, 128, 0, 72, true⟩

end QuorumRate.HostName.Punycode
