import QuorumRate.Binary64.Printer
import QuorumRate.Decimal.Printer
import QuorumRate.Keyed
import QuorumRate.Text.Quoted
/-! Decoded JSON values. Whole numbers and decimals are kept apart and exact; only the three
constants that are no decimal, NaN and the infinities, are binary numbers. An object keeps its
members in order. -/
namespace QuorumRate

inductive Json
  | null
  | bool (b : Bool)
  | int (n : Int)
  | decimal (d : Decimal)
  | real (x : Binary64)
  | string (t : Text)
  | array (items : List Json)
  | object (members : List (Text × Json))

namespace Json

def typeName : Json → String
  | .null => "NoneType"
  | .bool _ => "bool"
  | .int _ => "int"
  | .decimal _ => "Decimal"
  | .real _ => "float"
  | .string _ => "str"
  | .array _ => "list"
  | .object _ => "dict"

mutual

def shown : Json → String
  | .null => "None"
  | .bool b => if b then "True" else "False"
  | .int n => toString n
  | .decimal d => d.shown
  | .real x => x.toString
  | .string t => t.quoted
  | .array items => "[" ++ String.intercalate ", " (shownItems items) ++ "]"
  | .object members => "\x7b" ++ String.intercalate ", " (shownMembers members) ++ "\x7d"

def shownItems : List Json → List String
  | [] => []
  | v :: rest => v.shown :: shownItems rest

def shownMembers : List (Text × Json) → List String
  | [] => []
  | (key, v) :: rest => (key.quoted ++ ": " ++ v.shown) :: shownMembers rest

end

inductive LookupFault
  | missing (key : String)
  | notIndexable (typeName : String)
  | indexedArray
  | indexedString
  deriving DecidableEq, Repr

def LookupFault.shown : LookupFault → String
  | .missing key => "KeyError(" ++ QuorumRate.quoted key ++ ")"
  | .notIndexable name =>
    "TypeError(" ++ QuorumRate.quoted ("'" ++ name ++ "' object is not subscriptable") ++ ")"
  | .indexedArray => "TypeError('list indices must be integers or slices, not str')"
  | .indexedString =>
    "TypeError(" ++ QuorumRate.quoted "string indices must be integers, not 'str'" ++ ")"

def member (key : String) : Json → Except LookupFault Json
  | .object members =>
    match Keyed.find? members (Text.ofString key) with
    | some v => .ok v
    | none => .error (.missing key)
  | .array _ => .error .indexedArray
  | .string _ => .error .indexedString
  | .decimal _ => .error (.notIndexable "decimal.Decimal")
  | .null => .error (.notIndexable "NoneType")
  | .bool _ => .error (.notIndexable "bool")
  | .int _ => .error (.notIndexable "int")
  | .real _ => .error (.notIndexable "float")

end Json
end QuorumRate
