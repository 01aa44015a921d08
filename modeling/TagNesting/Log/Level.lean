/-!
# Levels of the log

Each event has a level; a threshold lets through the events that are at least as severe as it, or,
when the log is off, none.
-/

namespace TagNesting.Log

/-- How severe an event is. -/
inductive Level where
  | error
  | warn
  | info
  | debug
  | trace
  deriving DecidableEq, Repr

namespace Level

/-- The place in the order of severity, the most severe first. -/
def rank : Level → Nat
  | .error => 1
  | .warn => 2
  | .info => 3
  | .debug => 4
  | .trace => 5

/-- The name written in front of an event. -/
def name : Level → String
  | .error => "ERROR"
  | .warn => "WARN"
  | .info => "INFO"
  | .debug => "DEBUG"
  | .trace => "TRACE"

end Level

/-- The least severe level that is let through; `none` lets nothing through. -/
abbrev Threshold := Option Level

namespace Threshold

/-- Whether an event of this level is let through. -/
def admits (t : Threshold) (l : Level) : Bool :=
  match t with
  | none => false
  | some most => l.rank ≤ most.rank

/-- The thresholds by name, in lower case. -/
def byName : List (String × Threshold) :=
  [("off", none), ("error", some .error), ("warn", some .warn), ("info", some .info),
   ("debug", some .debug), ("trace", some .trace)]

end Threshold

end TagNesting.Log
