import TagNesting.Json
import TagNesting.Report.Basic

/-!
# The report as JSON

An object with the path of the file, the verdict, the fields of the report, and for each diagnostic
its line, its kind, the fields of that kind and its wording.
-/

namespace TagNesting

/-- The kind of a fault and its own fields. -/
def Fault.members : Fault → List (String × Json)
  | .unexpectedClosing name => [("kind", .string "unexpected_closing"), ("name", .string name)]
  | .mismatch expected openedAt found =>
    [("kind", .string "mismatch"), ("expected", .string expected), ("opened_at", .number openedAt),
     ("found", .string found)]
  | .unclosed name => [("kind", .string "unclosed_tag"), ("name", .string name)]

/-- A diagnostic with its wording. -/
def Diagnostic.toJson (d : Diagnostic) : Json :=
  .object (("line", .number d.line) :: (d.fault.members ++ [("message", .string d.message)]))

namespace Report

/-- The report on the file of that path. -/
def toJson (r : Report) (path : String) : Json :=
  .object
    [("path", .string path), ("balanced", .bool r.isBalanced), ("halted", .bool r.halted),
     ("lines_scanned", .number r.linesScanned),
     ("diagnostics", .array (r.diagnostics.map Diagnostic.toJson))]

/-- **The report as JSON**, ended by a line feed. -/
def toJsonText (r : Report) (path : String) : String := (r.toJson path).pretty ++ "\n"

end Report

end TagNesting
