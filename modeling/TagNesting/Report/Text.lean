import TagNesting.Report.Basic
import TagNesting.Text.Lines

/-!
# The report as plain text

One line for each fault of a closing tag, in order.  If the check was not halted, the tags left open
follow under a heading, or, where there are none, a line that says so.
-/

namespace TagNesting.Report

/-- The line that says that no tag is left open. -/
def balancedLine : String := "All tags balanced!"

/-- The heading above the tags left open. -/
def unclosedHeading : String := "Unclosed tags:"

/-- The lines that follow the faults of closing tags. -/
def trailer (r : Report) : List String :=
  if r.halted then []
  else if r.unclosed.isEmpty then [balancedLine]
  else unclosedHeading :: r.unclosed.map fun d => "  " ++ d.message

/-- The lines of the report. -/
def textLines (r : Report) : List String := r.closingFaults.map (·.message) ++ r.trailer

/-- **The report as plain text**, each line ended by a line feed. -/
def toText (r : Report) : String := Text.unlines r.textLines

end TagNesting.Report
