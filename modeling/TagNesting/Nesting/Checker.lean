import TagNesting.Log.Event
import TagNesting.Nesting.Policy
import TagNesting.Report.Basic
import TagNesting.Tag.Basic

/-!
# The checker

The checker holds the open tags and the diagnostics so far.  An opening tag is put on the stack, a
closing tag removes the top of it whatever its name, and a self-closing tag does nothing.  A closing
tag that finds the stack empty halts the checker, and a halted checker stays as it is.

`Checker.apply` is the step on one tag, `Checker.signal` what that step tells the caller,
`Checker.note` what the log says about it, and `Checker.finish` the report, in which every tag left
open is a further diagnostic unless the checker has halted.
-/

namespace TagNesting

open TagNesting.Log

/-- A tag that is open, and the line that opened it. -/
structure OpenTag where
  name : String
  line : Nat
  deriving DecidableEq, Repr

/-- The state of a check. -/
structure Checker where
  policy : Policy
  /-- The open tags, innermost first. -/
  stack : List OpenTag := []
  /-- The diagnostics in the order in which they arose. -/
  diagnostics : Array Diagnostic := #[]
  /-- A closing tag has found nothing open. -/
  halted : Bool := false
  /-- How many lines have been read. -/
  linesScanned : Nat := 0
  deriving DecidableEq, Repr

/-- What the caller is told after a tag or a line. -/
inductive Signal where
  /-- The next one may be fed. -/
  | goOn
  /-- Whatever follows is ignored. -/
  | halt
  deriving DecidableEq, Repr

namespace Checker

/-- The checker before its first tag. -/
def new (policy : Policy) : Checker where
  policy := policy

/-- The open tags, outermost first. -/
def openTags (c : Checker) : List OpenTag := c.stack.reverse

/-- Notes a fault of a closing tag. -/
def report (c : Checker) (line : Nat) (fault : Fault) : Checker :=
  { c with diagnostics := c.diagnostics.push ⟨line, fault⟩ }

/-- The step on a closing tag of a checker that has not halted. -/
def close (c : Checker) (name : String) (line : Nat) : Checker :=
  match c.stack with
  | [] => { c.report line (.unexpectedClosing name) with halted := true }
  | top :: below =>
    let rest := { c with stack := below }
    if top.name = name then rest
    else if c.policy.reports top.name name then rest.report line (.mismatch top.name top.line name)
    else rest

/-- **The step on one tag.** -/
def apply (c : Checker) (t : Tag) : Checker :=
  if c.halted then c
  else
    match t.kind with
    | .selfClosing => c
    | .opening => { c with stack := ⟨t.name, t.line⟩ :: c.stack }
    | .closing => c.close t.name t.line

/-- What the step on a tag tells the caller. -/
def signal (c : Checker) (t : Tag) : Signal :=
  if c.halted then .halt
  else
    match t.kind, c.stack with
    | .closing, [] => .halt
    | _, _ => .goOn

/-- What applying tags tells the caller, who stops at the first halt. -/
def signalAll (c : Checker) : List Tag → Signal
  | [] => .goOn
  | t :: ts =>
    match c.signal t with
    | .halt => .halt
    | .goOn => (c.apply t).signalAll ts

/-- What the log says about the step on a tag. -/
def note (c : Checker) (t : Tag) : List Event :=
  if c.halted then []
  else
    match t.kind, c.stack with
    | .selfClosing, _ => []
    | .opening, _ => [.pushed t.line t.name]
    | .closing, [] => [.nothingOpen t.line t.name]
    | .closing, top :: _ =>
      if top.name = t.name then [.popped t.line top.name]
      else if c.policy.reports top.name t.name then
        [.mismatched t.line t.name top.name top.line]
      else [.silentlyPopped t.line t.name top.name]

/-- The diagnostic for a tag left open. -/
def unclosedOf (o : OpenTag) : Diagnostic := ⟨o.line, .unclosed o.name⟩

/-- **The report.**  The tags left open follow the other diagnostics, outermost first; a halted
check does not report them. -/
def finish (c : Checker) : Report where
  diagnostics :=
    c.diagnostics.toList ++ if c.halted then [] else c.openTags.map unclosedOf
  halted := c.halted
  linesScanned := c.linesScanned

/-! ### What a step keeps -/

theorem apply_of_halted {c : Checker} (h : c.halted = true) (t : Tag) : c.apply t = c := by
  simp [apply, h]

theorem note_of_halted {c : Checker} (h : c.halted = true) (t : Tag) : c.note t = [] := by
  simp [note, h]

@[simp] theorem close_policy (c : Checker) (name : String) (line : Nat) :
    (c.close name line).policy = c.policy := by
  unfold close report
  split
  · rfl
  · dsimp only
    split
    · rfl
    · split <;> rfl

@[simp] theorem apply_policy (c : Checker) (t : Tag) : (c.apply t).policy = c.policy := by
  unfold apply
  split
  · rfl
  · split <;> simp

@[simp] theorem close_linesScanned (c : Checker) (name : String) (line : Nat) :
    (c.close name line).linesScanned = c.linesScanned := by
  unfold close report
  split
  · rfl
  · dsimp only
    split
    · rfl
    · split <;> rfl

@[simp] theorem apply_linesScanned (c : Checker) (t : Tag) :
    (c.apply t).linesScanned = c.linesScanned := by
  unfold apply
  split
  · rfl
  · split <;> simp

end Checker

end TagNesting
