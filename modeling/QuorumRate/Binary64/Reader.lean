import QuorumRate.Binary64.Basic
import QuorumRate.Decimal.Reader
import QuorumRate.Text.Number
/-! Reading binary numbers from decimal text: the nearest number, for any count of digits. -/
namespace QuorumRate.Binary64

def ofText? (t : Text) : Option Binary64 := do
  let (negative, body) := Decimal.splitSign (← t.typedNumber?).foldCase
  if body = Text.ofString "inf" || body = Text.ofString "infinity" then return .infinity negative
  else if body = Text.ofString "nan" then return .nan
  else
    let (coefficient, exponent) ← Decimal.unsigned? body
    return ofScientific negative coefficient exponent

end QuorumRate.Binary64
