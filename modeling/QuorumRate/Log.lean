/-! Log records. -/
namespace QuorumRate.Log

inductive Level
  | debug
  | info
  | warning
  | error
  deriving DecidableEq, Repr

def Level.rank : Level → Nat
  | .debug => 10
  | .info => 20
  | .warning => 30
  | .error => 40

def Level.name : Level → String
  | .debug => "DEBUG"
  | .info => "INFO"
  | .warning => "WARNING"
  | .error => "ERROR"

structure Record where
  level : Level
  message : String
  deriving DecidableEq, Repr

def atLeast (level : Level) (records : List Record) : List Record :=
  records.filter fun r => level.rank ≤ r.level.rank

end QuorumRate.Log
