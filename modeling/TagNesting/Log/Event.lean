import TagNesting.Log.Level
import TagNesting.Nesting.Policy
import TagNesting.Tag.Basic
import TagNesting.Text.Lines
import TagNesting.Text.Terminal

/-!
# Events of the log

What the program notes while it works.  An event knows its level, the part of the program it comes
from (its target) and its wording.
-/

namespace TagNesting.Log

/-- What is noted. -/
inductive Event where
  /-- A tag was taken from a line. -/
  | tagTaken (tag : Tag)
  /-- An opening tag was put on the stack. -/
  | pushed (line : Nat) (name : String)
  /-- A closing tag removed the open tag of the same name. -/
  | popped (line : Nat) (name : String)
  /-- A closing tag removed an open tag of another name, which is reported. -/
  | mismatched (line : Nat) (found expected : String) (openedAt : Nat)
  /-- A closing tag removed an open tag of another name, which is not reported. -/
  | silentlyPopped (line : Nat) (found expected : String)
  /-- A closing tag found nothing open. -/
  | nothingOpen (line : Nat) (name : String)
  /-- A settings file is about to be read. -/
  | loadingSettings (path : String)
  /-- The settings come from this file. -/
  | usingSettings (path : String)
  /-- The file to check has been read. -/
  | checking (path : String) (policy : Policy)
  /-- The check is over. -/
  | checked (lines diagnostics : Nat) (halted : Bool)
  deriving DecidableEq, Repr

namespace Event

/-- How a kind of tag is written in the log. -/
def kindLabel : Kind → String
  | .opening => "Opening"
  | .closing => "Closing"
  | .selfClosing => "SelfClosing"

/-- The severity of an event. -/
def level : Event → Level
  | .tagTaken _ => .trace
  | .pushed .. | .popped .. | .mismatched .. | .silentlyPopped .. | .nothingOpen .. => .debug
  | .loadingSettings _ => .debug
  | .usingSettings _ | .checking .. | .checked .. => .info

/-- The part of the program an event comes from. -/
def target : Event → String
  | .tagTaken _ => "tag_balance::parser::lexer"
  | .pushed .. | .popped .. | .mismatched .. | .silentlyPopped .. | .nothingOpen .. =>
    "tag_balance::validation::engine"
  | .loadingSettings _ => "tag_balance::config"
  | .usingSettings _ | .checking .. | .checked .. => "tag_balance"

/-- **The wording of an event.** -/
def message : Event → String
  | .tagTaken t => s!"line {t.line}: {kindLabel t.kind} <{t.name}>"
  | .pushed line name => s!"line {line}: push <{name}>"
  | .popped line name => s!"line {line}: pop <{name}>"
  | .mismatched line found expected openedAt =>
    s!"line {line}: </{found}> closes <{expected}> from line {openedAt}"
  | .silentlyPopped line found expected => s!"line {line}: </{found}> silently pops <{expected}>"
  | .nothingOpen line name => s!"line {line}: </{name}> with empty stack, halting"
  | .loadingSettings path => s!"loading config from {path}"
  | .usingSettings path => s!"using config {path}"
  | .checking path policy => s!"checking {path} ({policy.label} mismatch policy)"
  | .checked lines diagnostics halted =>
    s!"scanned {lines} lines, {diagnostics} diagnostics" ++ if halted then ", halted" else ""

/-- The event behind its level. -/
def entry (e : Event) : String := e.level.name ++ " " ++ e.message

/-- The event as it is written to the log, without the time: the level in five columns, the target,
the wording. -/
def written (e : Event) : String :=
  e.level.name ++ "".pushn ' ' (6 - e.level.name.length) ++ e.target ++ "] " ++ e.message

/-- The event as a line of the log: what a terminal shows of it, up to the first line feed. -/
def line (e : Event) : String := Text.firstLine (Text.Terminal.shown e.written)

end Event

end TagNesting.Log
