import TagNesting.Log.Event
import TagNesting.Text.Pattern.Reading

/-!
# Log filters

A filter is written as directives with commas between them: a level for all targets, a target, or a
target and its level with an equals sign between them.  A target that is given without a level lets
all of its events through.  A directive says something about every target that begins with its name,
and of those that do the one with the longest name decides.  A directive that cannot be read is left
out; where none is left, only errors pass.  Behind a slash a pattern may follow that must match
somewhere in every message; one that cannot be read is left out too.  A second slash makes the whole
filter unreadable.
-/

namespace TagNesting.Log

open TagNesting.Text

/-- What passes from the targets that begin with a name, or from all of them. -/
structure Directive where
  name : Option String
  threshold : Threshold
  deriving DecidableEq, Repr

/-- Directives, and a pattern that must match in the messages. -/
structure Filter where
  directives : List Directive
  pattern : Option Pattern := none
  deriving DecidableEq, Repr

namespace Directive

/-- The threshold of a name, whatever the case of its letters. -/
def threshold? (s : String) : Option Threshold :=
  Threshold.byName.lookup (String.ofList ((trim s).toList.map Char.toLower))

/-- Reads a directive. -/
def parse? (s : String) : Option Directive :=
  match s.splitOn "=" with
  | [one] =>
    match threshold? one with
    | some t => some ⟨none, t⟩
    | none => some ⟨some one, some .trace⟩
  | [name, level] =>
    if (trim level).isEmpty then some ⟨some name, some .trace⟩
    else (threshold? level).map fun t => ⟨some name, t⟩
  | _ => none

/-- How long the name is; the directive for all targets has none. -/
def nameLength (d : Directive) : Nat :=
  match d.name with
  | none => 0
  | some n => n.utf8ByteSize

/-- Whether the directive says something about a target. -/
def concerns (d : Directive) (target : String) : Bool :=
  match d.name with
  | none => true
  | some n => n.toList.isPrefixOf target.toList

end Directive

namespace Filter

/-- A later directive takes the place of an earlier one of the same name. -/
def insert (ds : List Directive) (d : Directive) : List Directive :=
  if ds.any (·.name = d.name) then ds.map fun e => if e.name = d.name then d else e else ds ++ [d]

/-- The directives of a list, those that can be read. -/
def directivesOf (s : String) : List Directive :=
  let parts := ((s.splitOn ",").map trim).filter fun p => !p.isEmpty
  (parts.filterMap Directive.parse?).foldl insert []

/-- The filter that only errors pass. -/
def errorsOnly : List Directive := [⟨none, some .error⟩]

/-- What stands before the slash of a filter and the pattern behind it; nothing if there are several
slashes. -/
def split? (s : String) : Option (String × Option String) :=
  match s.splitOn "/" with
  | [directives] => some (directives, none)
  | [directives, pattern] => some (directives, some pattern)
  | _ => none

/-- **Reads a filter.** -/
def parse (s : String) : Filter :=
  match split? s with
  | none => ⟨errorsOnly, none⟩
  | some (directives, pattern) =>
    let ds := directivesOf directives
    ⟨if ds.isEmpty then errorsOnly else ds, pattern.bind fun p => (Pattern.parse p).toOption⟩

/-- Why the pattern of a filter is left out, if it is. -/
def fault? (s : String) : Option Pattern.Fault :=
  match split? s with
  | some (_, some pattern) =>
    match Pattern.parse pattern with
    | .ok _ => none
    | .error f => some f
  | _ => none

/-- The threshold for a target: that of the longest name that concerns it, and of the last of those
if several are as long. -/
def threshold (f : Filter) (target : String) : Threshold :=
  let ordered := f.directives.mergeSort fun a b => a.nameLength ≤ b.nameLength
  match ordered.reverse.find? (·.concerns target) with
  | some d => d.threshold
  | none => none

/-- **Whether an event passes.** -/
def admits (f : Filter) (e : Event) : Bool :=
  (f.threshold e.target).admits e.level && f.pattern.all (·.occursIn e.message)

end Filter

end TagNesting.Log
