import QuorumRate.HostName.Label
import QuorumRate.HostName.Punycode
/-! Names of hosts in their encoded form, which is ASCII. A label of another script is written in
Punycode behind a mark. The rules are those of IDNA 2008 without its mappings, as idna 3.18 has them
with its tables of Unicode 17. -/
namespace QuorumRate.HostName

def isLabelEnd (c : CodePoint) : Bool := [0x2E, 0x3002, 0xFF0E, 0xFF61].contains c.val

def pieces : Text → List Text
  | [] => [[]]
  | c :: rest =>
    if isLabelEnd c then [] :: pieces rest
    else
      match pieces rest with
      | [] => [[c]]
      | first :: others => (c :: first) :: others

def labels (name : Text) : List Text :=
  let all := pieces name
  if all.getLast? = some [] then all.dropLast else all

def isEnded (name : Text) : Bool := name.getLast?.any isLabelEnd

def encodedMark : Text := Text.ofString "xn--"

def decodeLabel (ascii : Text) : Except Fault Text :=
  let found : Except Fault Text :=
    match ascii.foldCase.dropWord? "xn--" with
    | none => .ok ascii.foldCase
    | some [] => .error .nothingEncoded
    | some code =>
      if code.getLast?.any (·.is '-') then .error .encodedHyphen
      else (Punycode.decode? code).elim (.error .undecodable) .ok
  found.bind fun label => (labelFault? label).elim (.ok label) .error

def encodeLabel (label : Text) : Except Fault Text := do
  let ascii ←
    if label.all CodePoint.isAscii then (decodeLabel label).map fun _ => label
    else
      match labelFault? label with
      | some fault => .error fault
      | none => .ok (encodedMark ++ (Punycode.encode label).map CodePoint.ofChar)
  if maxLabelLength < ascii.length then .error .longLabel else .ok ascii
where
  maxLabelLength : Nat := 63

def maxNameLength (isEnded : Bool) : Nat := if isEnded then 254 else 253

def eachLabel (f : Text → Except Fault Text) (name : Text) : Except Fault (List Text) :=
  if maxNameLength true < name.length then .error .tooLong else (labels name).mapM f

def decode (name : Text) : Except Fault (List Text) := eachLabel decodeLabel name

def encode (name : Text) : Except Fault Text := do
  let encoded ← eachLabel encodeLabel name
  let stop := Text.ofString "."
  let joined := List.intercalate stop encoded ++ if isEnded name then stop else []
  if maxNameLength (isEnded name) < joined.length then .error .tooLong else .ok joined

end QuorumRate.HostName
