import QuorumRate.Text.Blank
import QuorumRate.Text.LowerCase
/-! The currency pairs that a rate is known for. -/
namespace QuorumRate

inductive Pair
  | usd
  deriving DecidableEq, Repr

namespace Pair

def all : List Pair := [.usd]

def name : Pair → String
  | .usd => "USD"

def base : Pair → String
  | .usd => "zec"

def quote : Pair → String
  | .usd => "usd"

def text (p : Pair) : String := p.base ++ "/" ++ p.quote

def ofCurrency? (code : Text) : Option Pair :=
  all.find? fun p => code.trim.lowerCase = Text.ofString p.quote

end Pair
end QuorumRate
