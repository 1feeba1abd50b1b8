import QuorumRate.Venue.Basic
/-! The options of the command line, their names, and the texts that tell of them. -/
namespace QuorumRate.CommandLine

inductive Flag
  | help
  | currency
  | proxy
  | fetchTimeout
  | connectTimeout
  | verbose
  deriving DecidableEq, Repr

namespace Flag

def all : List Flag := [.help, .currency, .proxy, .fetchTimeout, .connectTimeout, .verbose]

def names : Flag → List String
  | .help => ["-h", "--help"]
  | .currency => ["--currency"]
  | .proxy => ["--proxy"]
  | .fetchTimeout => ["--fetch-timeout"]
  | .connectTimeout => ["--connect-timeout"]
  | .verbose => ["-v", "--verbose"]

def label (f : Flag) : String := String.intercalate "/" f.names

def takesValue : Flag → Bool
  | .help | .verbose => false
  | _ => true

def named : List (String × Flag) := all.flatMap fun f => f.names.map (·, f)

def ofName? (name : String) : Option Flag := (named.find? (·.1 = name)).map (·.2)

end Flag

def program : String := "rateoracle"

def usage : String := String.intercalate "\n" [
  "usage: " ++ program ++ " [-h] [--currency CURRENCY] [--proxy PROXY]",
  "                  [--fetch-timeout FETCH_TIMEOUT]",
  "                  [--connect-timeout CONNECT_TIMEOUT] [-v]",
  ""]

def help : String := usage ++ String.intercalate "\n" [
  "",
  "ZEC Rate Oracle: Quorum exchange rate from multiple exchanges",
  "",
  "options:",
  "  -h, --help            show this help message and exit",
  "  --currency CURRENCY   ISO currency code to price ZEC in (default: usd)",
  "  --proxy PROXY         Proxy URL for all venue requests (e.g.,",
  "                        socks5://127.0.0.1:9050)",
  "  --fetch-timeout FETCH_TIMEOUT",
  "                        Timeout for individual venue requests in seconds",
  "                        (default: 10.0)",
  "  --connect-timeout CONNECT_TIMEOUT",
  "                        Connection timeout in seconds (default: 10.0)",
  "  -v, --verbose         Enable verbose (DEBUG) logging",
  "",
  "Venues queried:",
  "  " ++ String.intercalate ", " (Venue.all.map (·.name)),
  "",
  "Examples:",
  "  # USD rate over the direct network",
  "  python -m rateoracle.main --currency usd",
  "",
  "  # Through a local Tor SOCKS proxy",
  "  python -m rateoracle.main --proxy socks5://127.0.0.1:9050",
  "",
  "Environment variables (CLI args take precedence):",
  "  CURRENCY, PROXY, FETCH_TIMEOUT, CONNECT_TIMEOUT",
  ""]

end QuorumRate.CommandLine
