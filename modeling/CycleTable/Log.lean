/-! # Log levels

Every record of a log has a level. A threshold shows the records that are at least as severe as
it; without a threshold nothing is shown.
-/
namespace CycleTable

inductive Level where
  | error
  | warn
  | info
  | debug
  | trace
  deriving DecidableEq, Repr

namespace Level

def rank : Level → Nat
  | .error => 0
  | .warn => 1
  | .info => 2
  | .debug => 3
  | .trace => 4

def name : Level → String
  | .error => "ERROR"
  | .warn => "WARN"
  | .info => "INFO"
  | .debug => "DEBUG"
  | .trace => "TRACE"

/-- The threshold with a name in letters of either case; `off` is the name of none. -/
def thresholdOfName? (name : String) : Option (Option Level) :=
  match name.toLower with
  | "off" => some none
  | "error" => some (some .error)
  | "warn" => some (some .warn)
  | "info" => some (some .info)
  | "debug" => some (some .debug)
  | "trace" => some (some .trace)
  | _ => none

def shownAt (level : Level) : Option Level → Bool
  | some threshold => level.rank ≤ threshold.rank
  | none => false

end Level
end CycleTable
