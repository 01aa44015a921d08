import TagNesting.Decimal.Shortest
import TagNesting.Nesting.Policy
import TagNesting.Report.Format
import TagNesting.Settings.Choice
import TagNesting.Toml.Document

/-!
# Settings in a file

A settings file is a TOML document with at most three keys: `format` and `mismatch_policy`, which
take one of a few names, and `log_level`, which takes any string.  A name may also be written as a
table with that name as its only key and nothing under it.  The keys are looked at in the order of
their characters, and the first that does not fit decides.
-/

namespace TagNesting

open TagNesting.Toml TagNesting.Decimal

/-- What a settings file says. -/
structure FileSettings where
  format : Option Format := none
  policy : Option Policy := none
  logLevel : Option String := none
  deriving DecidableEq, Repr

/-- Why a document is no settings file. -/
inductive Misfit where
  /-- There is no setting of that name. -/
  | unknownKey (name : String)
  /-- The name is none of those offered. -/
  | unknownName (offered : List String) (name : String)
  /-- A name is wanted, and the value is neither a string nor a table. -/
  | neitherStringNorTable
  /-- A table that should hold a name holds none. -/
  | noName
  /-- A table that should hold a name holds several. -/
  | severalNames
  /-- What stands under the name is an array with items. -/
  | arrayNotEmpty
  /-- What stands under the name is a table with keys. -/
  | tableNotEmpty
  /-- What stands under the name is no table. -/
  | notTable (found : String)
  /-- A string is wanted. -/
  | notString (found : String)
  deriving DecidableEq, Repr

namespace FileSettings

/-- The keys of a settings file. -/
def keys : List String := ["format", "mismatch_policy", "log_level"]

end FileSettings

/-- The wording of a misfit. -/
def Misfit.message : Misfit → String
  | .unknownKey name => "unknown field `" ++ name ++ "`, expected " ++ offer FileSettings.keys
  | .unknownName offered name => "unknown variant `" ++ name ++ "`, expected " ++ offer offered
  | .neitherStringNorTable => "wanted string or table"
  | .noName => "wanted exactly 1 element, found 0 elements"
  | .severalNames => "wanted exactly 1 element, more than 1 element"
  | .arrayNotEmpty => "expected empty array"
  | .tableNotEmpty => "expected empty table"
  | .notTable found => "expected table, found " ++ found
  | .notString found => "invalid type: " ++ found ++ ", expected a string"

/-- What is wrong with the text of a settings file, and where. -/
inductive Defect where
  /-- It is not well formed. -/
  | illFormed (place : Nat)
  /-- It is well formed but does not fit. -/
  | unfit (misfit : Misfit) (place : Nat)
  deriving DecidableEq, Repr

/-- Where the defect shows. -/
def Defect.place : Defect → Nat
  | .illFormed place => place
  | .unfit _ place => place

namespace FileSettings

/-! ### The values of settings -/

/-- The kind of a value, as a message names it. -/
def kindOf : Value → String
  | .string _ => "string"
  | .integer _ => "integer"
  | .float _ => "float"
  | .outOfRange => "number"
  | .boolean _ => "boolean"
  | .datetime => "datetime"
  | .array _ | .tables _ => "array"
  | .table .. => "table"

/-- Nothing stands under a name. -/
def nothingUnder (v : Located Value) : Except Defect Unit :=
  match v.item with
  | .table _ [] | .array [] | .tables [] => .ok ()
  | .table .. => .error (.unfit .tableNotEmpty v.place)
  | .array _ | .tables _ => .error (.unfit .arrayNotEmpty v.place)
  | other => .error (.unfit (.notTable (kindOf other)) v.place)

/-- The value of a setting that takes one of a few names. -/
def nameIn {α : Type} (options : List (String × α)) (v : Located Value) : Except Defect α :=
  let lookup (name : String) (place : Nat) : Except Defect α :=
    match Choice.find? options name with
    | some a => .ok a
    | none => .error (.unfit (.unknownName (options.map (·.1)) name) place)
  match v.item with
  | .string name => lookup name v.place
  | .table _ [] => .error (.unfit .noName v.place)
  | .table _ [e] => do
    let a ← lookup e.key.item e.key.place
    nothingUnder e.value
    return a
  | .table .. => .error (.unfit .severalNames v.place)
  | _ => .error (.unfit .neitherStringNorTable v.place)

/-- A fraction in a message: its shortest digits in positional notation. -/
def floatText (r : FloatingPoint) : String :=
  let sign (negative : Bool) := if negative then "-" else ""
  match r with
  | .finite negative m => sign negative ++ m.shortest.positional
  | .infinite negative => sign negative ++ "inf"
  | .notANumber => "NaN"

/-- A value that is no string, as a message names it. -/
def describe : Value → String
  | .integer n => s!"integer `{n}`"
  | .float r => "floating point `" ++ floatText r ++ "`"
  | .boolean b => s!"boolean `{b}`"
  | .array _ | .tables _ => "sequence"
  | .table .. | .datetime => "map"
  | other => kindOf other

/-- The value of a setting that takes any string. -/
def stringIn (v : Located Value) : Except Defect String :=
  match v.item with
  | .string s => .ok s
  | other => .error (.unfit (.notString (describe other)) v.place)

/-! ### The settings of a document -/

/-- Takes one setting. -/
def take (s : FileSettings) (e : Entry Value) : Except Defect FileSettings := do
  match e.key.item with
  | "format" => return { s with format := some (← nameIn Format.byName e.value) }
  | "mismatch_policy" => return { s with policy := some (← nameIn Policy.byName e.value) }
  | "log_level" => return { s with logLevel := some (← stringIn e.value) }
  | other => throw (.unfit (.unknownKey other) e.key.place)

/-- The settings of a root table. -/
def ofEntries (es : Entries) : Except Defect FileSettings :=
  (es.mergeSort fun a b => !(b.key.item < a.key.item)).foldlM take {}

/-- **The settings of a text.**  A number out of range makes a text that does not fit ill formed; the
place is that of the misfit all the same. -/
def parse (text : String) : Except Defect FileSettings :=
  match Toml.parse text with
  | .error e => .error (.illFormed e.place)
  | .ok es =>
    match ofEntries es with
    | .ok s => .ok s
    | .error d => .error (if entriesInRange es then d else .illFormed d.place)

end FileSettings

end TagNesting
