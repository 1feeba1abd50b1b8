import QuorumRate.Text.Blank
import QuorumRate.Text.DecimalDigit
/-! Numbers as they are typed: with white space around them, with digits of any script, and with
underscores that group the digits. -/
namespace QuorumRate

def CodePoint.isMargin (c : CodePoint) : Bool :=
  (9 ≤ c.val && c.val ≤ 13) || c.val == 32 || (128 ≤ c.val && c.isBlank)

namespace Text

def joinGroups? : Text → Option Text
  | [] => some []
  | [c] => if c.is '_' then none else some [c]
  | c :: next :: rest =>
    if c.is '_' then none
    else if next.is '_' then
      match rest with
      | [] => none
      | after :: rest =>
        if c.isAsciiDigit && after.isAsciiDigit then
          (joinGroups? (after :: rest)).map (c :: ·)
        else none
    else (joinGroups? (next :: rest)).map (c :: ·)

def typedNumber? (t : Text) : Option Text :=
  joinGroups? (Text.trimBy CodePoint.isMargin (t.map CodePoint.foldDigit))

def maxDigits : Nat := 4300

end Text
end QuorumRate
