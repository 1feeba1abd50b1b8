import QuorumRate.CommandLine.Console
import QuorumRate.Transport.Recording
/-! The program: the rate out of replies that were recorded beforehand and come on standard input.
Lots are drawn from the system's source of random numbers. -/
namespace QuorumRate.CommandLine

def readEnvironment : IO Environment := do
  return {
    currency := ← IO.getEnv "CURRENCY"
    proxy := ← IO.getEnv "PROXY"
    fetchTimeout := ← IO.getEnv "FETCH_TIMEOUT"
    connectTimeout := ← IO.getEnv "CONNECT_TIMEOUT" }

def showRun (r : Run) : IO UInt32 := do
  for record in r.records do
    IO.eprintln ("[" ++ record.level.name ++ "] " ++ record.message)
  match r.ending with
  | .error crash =>
    IO.eprintln crash.message
    return 1
  | .ok ending =>
    IO.print ending.output
    IO.eprint ending.usageError
    return ending.status.toUInt32

end QuorumRate.CommandLine

def main (arguments : List String) : IO UInt32 := do
  let env ← QuorumRate.CommandLine.readEnvironment
  let recording ← (← IO.getStdin).readToEnd
  let pick ← IO.rand 0 (Nat.pow 2 62)
  let net := QuorumRate.Network.ofRecording (recording.splitOn "\n")
  QuorumRate.CommandLine.showRun
    (QuorumRate.CommandLine.run env arguments net [(pick : Int)] false)
