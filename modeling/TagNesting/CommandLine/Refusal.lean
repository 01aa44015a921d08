import TagNesting.CommandLine.Arguments
import TagNesting.Text.Lines
import TagNesting.Text.Terminal

/-!
# Refusals

Why a command line yields no arguments: it asks for help or for the version, or it has a mistake.
What is asked for is written in full, and a mistake is told in one line.
-/

namespace TagNesting.CommandLine

open TagNesting.Text.Terminal

/-- A mistake in a command line. -/
inductive Mistake where
  /-- The argument is no flag or option, or there is no place for it. -/
  | unexpectedArgument (argument : String)
  /-- A flag is given a value. -/
  | unexpectedValue (value : String) (flag : Flag)
  /-- A value is missing, or empty where it may not be. -/
  | valueMissing (slot : Slot)
  /-- The value is none of those allowed. -/
  | valueInvalid (value : String) (slot : Slot)
  /-- An option is given a second time. -/
  | optionRepeated (slot : Slot)
  /-- A flag is given a second time. -/
  | flagRepeated (flag : Flag)
  deriving DecidableEq, Repr

/-- Why a command line yields no arguments. -/
inductive Refusal where
  | help
  | version
  | mistake (what : Mistake)
  deriving DecidableEq, Repr

/-! ### What is asked for -/

/-- The lines of the help text. -/
def helpLines : List String :=
  ["Check that markup tags in a source file are balanced",
   "",
   "Usage: tag-balance [OPTIONS] [PATH]",
   "",
   "Arguments:",
   "  [PATH]  File to check [default: components/AdminView.tsx]",
   "",
   "Options:",
   "      --format <FORMAT>        Output format (text, json) [possible values: text, json]",
   "      --all-mismatches         Report every closing-tag name mismatch, " ++
     "not only those involving `div`",
   "      --config <CONFIG>        Path to a TOML config file",
   "      --log-level <LOG_LEVEL>  Log level (trace, debug, info, warn, error)",
   "  -h, --help                   Print help",
   "  -V, --version                Print version"]

/-- The help text. -/
def helpText : String := Text.unlines helpLines

/-- The name and the version of the program. -/
def versionText : String := "tag-balance 0.1.0\n"

/-! ### Mistakes -/

namespace Mistake

/-- What is said about a mistake.  Of an argument only what a terminal shows is repeated. -/
def sentence : Mistake → String
  | .unexpectedArgument argument => s!"unexpected argument '{shown argument}' found"
  | .unexpectedValue value flag =>
    s!"unexpected value '{shown value}' for '{flag.label}' found; no more were expected"
  | .valueMissing slot => s!"a value is required for '{slot.label}' but none was supplied"
  | .valueInvalid value slot => s!"invalid value '{shown value}' for '{slot.label}'"
  | .optionRepeated slot => s!"the argument '{slot.label}' cannot be used multiple times"
  | .flagRepeated flag => s!"the argument '{flag.label}' cannot be used multiple times"

/-- **The line that tells a mistake**; an argument may cut it short by a line feed. -/
def message (m : Mistake) : String := Text.firstLine ("error: " ++ m.sentence)

end Mistake

namespace Refusal

/-- What is written instead of a report. -/
def message : Refusal → String
  | .help => helpText
  | .version => versionText
  | .mistake m => m.message

/-- The exit status that a refusal leads to. -/
def exitCode : Refusal → Nat
  | .help | .version => 0
  | .mistake _ => 2

end Refusal

end TagNesting.CommandLine
