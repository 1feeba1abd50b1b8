import QuorumRate.Text.Quoted
/-! What can be wrong with the name of a host. -/
namespace QuorumRate.HostName

inductive DirectionFault
  | unknown (label : Text) (position : Nat)
  | first (label : Text)
  | inRightward (position : Nat)
  | inLeftward (position : Nat)
  | mixedDigits
  | last
  deriving DecidableEq, Repr

def DirectionFault.message : DirectionFault → String
  | .unknown label position =>
    "Unknown directionality in label " ++ label.quoted ++ " at position " ++ toString position
  | .first label =>
    "First codepoint in label " ++ label.quoted ++ " must be directionality L, R or AL"
  | .inRightward position =>
    "Invalid direction for codepoint at position " ++ toString position ++
      " in a left-to-right label"
  | .inLeftward position =>
    "Invalid direction for codepoint at position " ++ toString position ++
      " in a right-to-left label"
  | .mixedDigits => "Can not mix numeral types in a right-to-left label"
  | .last => "Label ends with illegal codepoint directionality"

structure Spot where
  point : CodePoint
  position : Nat
  label : Text
  deriving DecidableEq, Repr

def Spot.number (s : Spot) : String :=
  "U+" ++ String.ofList ((Text.hexadecimal 4 s.point.val).toList.map Char.toUpper)

def Spot.place (s : Spot) : String := "at position " ++ toString s.position

inductive Fault
  | tooLong
  | emptyLabel
  | longLabel
  | notComposed
  | innerHyphens
  | outerHyphen
  | markFirst
  | character (spot : Spot)
  | context (spot : Spot)
  | joiner (spot : Spot)
  | direction (fault : DirectionFault)
  | nothingEncoded
  | encodedHyphen
  | undecodable
  deriving DecidableEq, Repr

def Fault.message : Fault → String
  | .tooLong => "Domain too long"
  | .emptyLabel => "Empty Label"
  | .longLabel => "Label too long"
  | .notComposed => "Label must be in Normalization Form C"
  | .innerHyphens => "Label has disallowed hyphens in 3rd and 4th position"
  | .outerHyphen => "Label must not start or end with a hyphen"
  | .markFirst => "Label begins with an illegal combining character"
  | .character s =>
    "Codepoint " ++ s.number ++ " " ++ s.place ++ " of " ++ s.label.quoted ++ " not allowed"
  | .context s =>
    "Codepoint " ++ s.number ++ " not allowed " ++ s.place ++ " in " ++ s.label.quoted
  | .joiner s =>
    "Unknown codepoint adjacent to joiner " ++ s.number ++ " " ++ s.place ++ " in " ++
      s.label.quoted
  | .direction fault => fault.message
  | .nothingEncoded => "Malformed A-label, no Punycode eligible content found"
  | .encodedHyphen => "A-label must not end with a hyphen"
  | .undecodable => "Invalid A-label"

end QuorumRate.HostName
