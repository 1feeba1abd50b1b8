import QuorumRate.Text.CodePoint
/-! White space: the Unicode class, with the four ASCII separators `1C` to `1F`, and trimming. -/
namespace QuorumRate

def CodePoint.isBlank (c : CodePoint) : Bool :=
  let n := c.val
  (9 ≤ n && n ≤ 13) || (0x1C ≤ n && n ≤ 0x20) || n == 0x85 || n == 0xA0 || n == 0x1680 ||
    (0x2000 ≤ n && n ≤ 0x200A) || n == 0x2028 || n == 0x2029 || n == 0x202F || n == 0x205F ||
    n == 0x3000

namespace Text

def trimBy (blank : CodePoint → Bool) (t : Text) : Text :=
  ((t.dropWhile blank).reverse.dropWhile blank).reverse

def trim (t : Text) : Text := t.trimBy CodePoint.isBlank

end Text
end QuorumRate
