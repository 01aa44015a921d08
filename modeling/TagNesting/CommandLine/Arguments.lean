import TagNesting.Report.Format

/-!
# Arguments

What a command line can say: the file to check, three options that take a value, and flags that take
none.
-/

namespace TagNesting.CommandLine

/-- The file that is checked when none is named. -/
def defaultPath : String := "components/AdminView.tsx"

/-- What a command line says. -/
structure Arguments where
  path : String := defaultPath
  format : Option Format := none
  allMismatches : Bool := false
  config : Option String := none
  logLevel : Option String := none
  deriving DecidableEq, Repr

/-- What takes a value: three options, and the path, which has its place. -/
inductive Slot where
  | format
  | config
  | logLevel
  | path
  deriving DecidableEq, Repr

/-- How a message names what takes a value. -/
def Slot.label : Slot → String
  | .format => "--format <FORMAT>"
  | .config => "--config <CONFIG>"
  | .logLevel => "--log-level <LOG_LEVEL>"
  | .path => "[PATH]"

/-- What takes no value. -/
inductive Flag where
  | allMismatches
  | help
  | version
  deriving DecidableEq, Repr

/-- How a message names a flag. -/
def Flag.label : Flag → String
  | .allMismatches => "--all-mismatches"
  | .help => "--help"
  | .version => "--version"

end TagNesting.CommandLine
