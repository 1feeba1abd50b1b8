import QuorumRate.HostName.Character
import QuorumRate.HostName.Direction
import QuorumRate.HostName.Fault
import QuorumRate.HostName.Joining
import QuorumRate.HostName.Script
import QuorumRate.Text.Composed
/-! Labels, the parts of a name between full stops: which texts are labels, in any script. -/
namespace QuorumRate.HostName

/-! Some signs are allowed only between certain others. -/

def isArabicDigit (c : CodePoint) : Bool := c.isIn [(0x660, 0x669)]
def isExtendedDigit (c : CodePoint) : Bool := c.isIn [(0x6F0, 0x6F9)]

def needsContext (c : CodePoint) : Bool :=
  [0xB7, 0x375, 0x5F3, 0x5F4, 0x30FB].contains c.val || isArabicDigit c || isExtendedDigit c

def fitsContext (before : Text) (c : CodePoint) (after : Text) : Bool :=
  if c.val = 0xB7 then before.head?.any (·.is 'l') && after.head?.any (·.is 'l')
  else if c.val = 0x375 then after.head?.any (·.isIn greekRuns)
  else if c.val = 0x5F3 || c.val = 0x5F4 then before.head?.any (·.isIn hebrewRuns)
  else if c.val = 0x30FB then
    (before ++ after).any fun d => d.val != 0x30FB && d.isIn japaneseRuns
  else if isArabicDigit c then !(before ++ after).any isExtendedDigit
  else !(before ++ after).any isArabicDigit

def nonJoiner : Nat := 0x200C
def joiner : Nat := 0x200D

def fitsJoin (before : Text) (c : CodePoint) (after : Text) : Bool :=
  before.head?.any CodePoint.isVirama ||
    (c.val = nonJoiner && before.head?.all (directionOf · != .unknown) &&
      (before.dropWhile isTransparent).head?.any joinsForward &&
      (after.dropWhile isTransparent).head?.any joinsBackward)

def spotFault? (label before : Text) : Text → Option Fault
  | [] => none
  | c :: after =>
    let spot : Spot := ⟨c, before.length + 1, label⟩
    if isCharacter c then spotFault? label (c :: before) after
    else if c.val = nonJoiner || c.val = joiner then
      if fitsJoin before c after then spotFault? label (c :: before) after else some (.joiner spot)
    else if needsContext c then
      if fitsContext before c after then spotFault? label (c :: before) after
      else some (.context spot)
    else some (.character spot)

/-! Directions: a label that holds letters written from right to left keeps to one direction. -/

def isRightToLeft : Direction → Bool
  | .right | .arabic | .arabicDigit => true
  | _ => false

def fitsLeftward (d : Direction) : Bool := d != .left
def fitsRightward (d : Direction) : Bool := !isRightToLeft d

def endsLeftward (d : Direction) : Bool := isRightToLeft d || d = .digit
def endsRightward (d : Direction) : Bool := d = .left || d = .digit

def leftwardFault? (position : Nat) (digits : Option Direction) :
    List Direction → Option DirectionFault
  | [] => none
  | d :: rest =>
    if !fitsLeftward d then some (.inLeftward (position + 1))
    else if d = .digit || d = .arabicDigit then
      if digits.all (· = d) then leftwardFault? (position + 1) (some d) rest else some .mixedDigits
    else leftwardFault? (position + 1) digits rest

def rightwardFault? (directions : List Direction) : Option DirectionFault :=
  if directions.all fitsRightward then none
  else some (.inRightward (directions.findIdx (!fitsRightward ·) + 1))

def directionFault? (label : Text) : Option DirectionFault :=
  let directions := label.map directionOf
  let last? := (directions.reverse.dropWhile (· = .attached)).head?
  if directions.contains .unknown then
    some (.unknown label (directions.findIdx (· = .unknown) + 1))
  else if !directions.any isRightToLeft then none
  else
    match directions.head? with
    | some .right | some .arabic =>
      (leftwardFault? 0 none directions).or (if last?.any endsLeftward then none else some .last)
    | some .left =>
      (rightwardFault? directions).or (if last?.any endsRightward then none else some .last)
    | _ => some (.first label)

def maxLength : Nat := 254

def labelFault? (label : Text) : Option Fault :=
  let hyphen := fun (c : CodePoint) => c.is '-'
  if label.isEmpty then some .emptyLabel
  else if maxLength < label.length then some .longLabel
  else if !label.isComposed then some .notComposed
  else if (label.drop 2).take 2 = Text.ofString "--" then some .innerHyphens
  else if label.head?.any hyphen || label.getLast?.any hyphen then some .outerHyphen
  else if label.head?.any CodePoint.isMark then some .markFirst
  else (spotFault? label [] label).or ((directionFault? label).map .direction)

end QuorumRate.HostName
