import QuorumRate.Decimal.Arithmetic
import QuorumRate.Decimal.Order
import QuorumRate.Decimal.Printer
/-! Quotes: the best bid and the best ask of a venue, and the price in their middle. -/
namespace QuorumRate

structure Quote where
  bid : Decimal
  ask : Decimal
  deriving DecidableEq, Repr

namespace Quote

def price (q : Quote) : Except Decimal.Signal Decimal := do
  (← Decimal.add q.bid q.ask).half

def isCrossed (q : Quote) : Except Decimal.Signal Bool := Decimal.less q.ask q.bid

def shown (q : Quote) : String :=
  "Quote(bid=" ++ q.bid.shown ++ ", ask=" ++ q.ask.shown ++ ")"

end Quote
end QuorumRate
