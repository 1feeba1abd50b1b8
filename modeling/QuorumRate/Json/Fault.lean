import QuorumRate.Text.Number
/-! What can be wrong with a JSON text, and how a message tells it. -/
namespace QuorumRate.Json

inductive Complaint
  | expectedValue
  | expectedName
  | expectedColon
  | expectedComma
  | extraData
  | unterminatedString
  | controlCharacter
  | badEscape
  | badUnicodeEscape
  deriving DecidableEq, Repr

def Complaint.message : Complaint → String
  | .expectedValue => "Expecting value"
  | .expectedName => "Expecting property name enclosed in double quotes"
  | .expectedColon => "Expecting ':' delimiter"
  | .expectedComma => "Expecting ',' delimiter"
  | .extraData => "Extra data"
  | .unterminatedString => "Unterminated string starting at"
  | .controlCharacter => "Invalid control character at"
  | .badEscape => "Invalid \\escape"
  | .badUnicodeEscape => "Invalid \\uXXXX escape"

inductive Container
  | array
  | object
  deriving DecidableEq, Repr

def Container.name : Container → String
  | .array => "array"
  | .object => "object"

inductive Fault
  | malformed (complaint : Complaint) (rest : Text)
  | longInteger (digits : Nat)
  | tooDeep (container : Container)
  | unholdableNumber
  deriving DecidableEq, Repr

structure Place where
  line : Nat
  column : Nat
  offset : Nat
  deriving DecidableEq, Repr

def Place.after (before : Text) : Place where
  line := before.countP (·.val == 10) + 1
  column := (before.reverse.takeWhile (·.val != 10)).length + 1
  offset := before.length

def Fault.message (whole : Text) : Fault → String
  | .malformed complaint rest =>
    let place := Place.after (whole.take (whole.length - rest.length))
    complaint.message ++ ": line " ++ toString place.line ++ " column " ++ toString place.column ++
      " (char " ++ toString place.offset ++ ")"
  | .longInteger digits =>
    "Exceeds the limit (" ++ toString Text.maxDigits ++
      " digits) for integer string conversion: value has " ++ toString digits ++
      " digits; use sys.set_int_max_str_digits() to increase the limit"
  | .tooDeep container =>
    "maximum recursion depth exceeded while decoding a JSON " ++ container.name ++
      " from a unicode string"
  | .unholdableNumber => "number out of bounds"

end QuorumRate.Json
