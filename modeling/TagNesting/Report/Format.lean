import TagNesting.Report.Json
import TagNesting.Report.Text

/-!
# Output formats

A report is written as plain text or as JSON.  The JSON form names the file, so it needs a path that
is Unicode text; plain text does not.
-/

namespace TagNesting

/-- How a report is written. -/
inductive Format where
  | text
  | json
  deriving DecidableEq, Repr, Inhabited

/-- The formats by the names that settings and arguments give them. -/
def Format.byName : List (String × Format) := [("text", .text), ("json", .json)]

/-- The format's name. -/
def Format.name : Format → String
  | .text => "text"
  | .json => "json"

/-- Why a report cannot be written. -/
inductive RenderError where
  /-- The path to be named is not Unicode text. -/
  | pathNotText
  deriving DecidableEq, Repr

/-- The wording of the error. -/
def RenderError.message : RenderError → String
  | .pathNotText => "path contains invalid UTF-8 characters"

/-- **Writes a report.**  The path is absent if it is not Unicode text. -/
def Report.render (r : Report) (format : Format) (path : Option String) :
    Except RenderError String :=
  match format, path with
  | .text, _ => .ok r.toText
  | .json, some p => .ok (r.toJsonText p)
  | .json, none => .error .pathNotText

end TagNesting
