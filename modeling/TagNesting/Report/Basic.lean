import TagNesting.Nesting.Diagnostic

/-!
# Reports

The outcome of a check: its diagnostics in the order in which they arose, whether an unexpected
closing tag stopped it, and how many lines it read, the stopping one included.
-/

namespace TagNesting

/-- The outcome of a check. -/
structure Report where
  diagnostics : List Diagnostic
  halted : Bool
  linesScanned : Nat
  deriving DecidableEq, Repr

namespace Report

/-- Nothing was wrong. -/
def isBalanced (r : Report) : Bool := !r.halted && r.diagnostics.isEmpty

/-- The tags left open, in the order in which they were opened. -/
def unclosed (r : Report) : List Diagnostic := r.diagnostics.filter (·.isUnclosed)

/-- The faults of closing tags. -/
def closingFaults (r : Report) : List Diagnostic := r.diagnostics.filter (!·.isUnclosed)

/-- The check reached the end with no tag left open; mismatches do not count. -/
def stackEmptied (r : Report) : Bool := !r.halted && !r.diagnostics.any (·.isUnclosed)

end Report

end TagNesting
