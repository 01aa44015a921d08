/-!
# Diagnostics

What is wrong with the nesting, and on which line.  Each diagnostic has one wording
(`Diagnostic.message`), which both forms of the report use.
-/

namespace TagNesting

/-- What is wrong at a place. -/
inductive Fault where
  /-- A closing tag where nothing is open. -/
  | unexpectedClosing (name : String)
  /-- A closing tag `found` for the tag `expected` that line `openedAt` opened. -/
  | mismatch (expected : String) (openedAt : Nat) (found : String)
  /-- A tag that is still open at the end. -/
  | unclosed (name : String)
  deriving DecidableEq, Repr

/-- A fault and its line: that of the closing tag, or that of the tag left open. -/
structure Diagnostic where
  line : Nat
  fault : Fault
  deriving DecidableEq, Repr

namespace Diagnostic

/-- A tag left open, as opposed to a fault of a closing tag. -/
def isUnclosed (d : Diagnostic) : Bool :=
  match d.fault with
  | .unclosed _ => true
  | _ => false

/-- **The wording of a diagnostic.** -/
def message (d : Diagnostic) : String :=
  match d.fault with
  | .unexpectedClosing name => "Line " ++ toString d.line ++ ": Unexpected closing tag " ++ name
  | .mismatch expected openedAt found =>
    "Line " ++ toString d.line ++ ": Mismatch! Expected closing " ++ expected ++ " (opened at " ++
      toString openedAt ++ "), found " ++ found
  | .unclosed name => name ++ " at line " ++ toString d.line

end Diagnostic

end TagNesting
