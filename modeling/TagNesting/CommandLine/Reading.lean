import TagNesting.CommandLine.Refusal
import TagNesting.Settings.Choice

/-!
# Reading a command line

Arguments are read from left to right, and the first request or mistake decides.  An option or the
path stays *pending* with its value: the value is looked at only once the next argument has been
recognised, or at the end.  So an argument that is itself wrong is refused before the pending value,
and an option that still lacks its value when another one is recognised is refused for that.  A
value written behind `=` is complete at once and does not stay pending.  After `--` every argument
is a path.
-/

namespace TagNesting.CommandLine

/-- An option or the path whose value has not been looked at. -/
structure Pending where
  slot : Slot
  value : Option String
  deriving DecidableEq, Repr

/-- How far the reading has come. -/
structure Reading where
  path : Option String := none
  format : Option Format := none
  allMismatches : Bool := false
  config : Option String := none
  logLevel : Option String := none
  pending : Option Pending := none
  /-- A path has been given, pending or not. -/
  pathTaken : Bool := false
  /-- The pending option takes the next argument as its value. -/
  awaitsValue : Bool := false
  /-- `--` has been read. -/
  onlyPaths : Bool := false
  deriving DecidableEq, Repr

namespace Reading

/-- A value that may not be empty. -/
def nonEmpty (slot : Slot) (value : String) : Except Refusal String :=
  if value.isEmpty then .error (.mistake (.valueMissing slot)) else .ok value

/-- An option may be given once. -/
def once {α : Type} (slot : Slot) (given : Option α) : Except Refusal Unit :=
  if given.isSome then .error (.mistake (.optionRepeated slot)) else .ok ()

/-- Looks at a value and takes it. -/
def assign (r : Reading) (slot : Slot) (value : String) : Except Refusal Reading := do
  match slot with
  | .format =>
    once slot r.format
    let value ← nonEmpty slot value
    match Choice.find? Format.byName value with
    | some f => return { r with format := some f }
    | none => throw (.mistake (.valueInvalid value slot))
  | .config =>
    once slot r.config
    return { r with config := some (← nonEmpty slot value) }
  | .logLevel =>
    once slot r.logLevel
    return { r with logLevel := some value }
  | .path => return { r with path := some (← nonEmpty slot value) }

/-- Looks at the pending value. -/
def settle (r : Reading) : Except Refusal Reading :=
  match r.pending with
  | none => .ok r
  | some ⟨slot, none⟩ => .error (.mistake (.valueMissing slot))
  | some ⟨slot, some value⟩ =>
    { r with pending := none, awaitsValue := false }.assign slot value

/-- A flag acts at once. -/
def raise (r : Reading) (flag : Flag) : Except Refusal Reading := do
  let r ← r.settle
  match flag with
  | .help => throw .help
  | .version => throw .version
  | .allMismatches =>
    if r.allMismatches then throw (.mistake (.flagRepeated flag))
    return { r with allMismatches := true }

/-- The options by the names that follow `--`. -/
def slotsByName : List (String × Slot) :=
  [("format", .format), ("config", .config), ("log-level", .logLevel)]

/-- The flags by the names that follow `--`. -/
def flagsByName : List (String × Flag) :=
  [("all-mismatches", .allMismatches), ("help", .help), ("version", .version)]

/-- The flags by the letters that follow `-`. -/
def flagsByLetter : List (Char × Flag) := [('h', .help), ('V', .version)]

/-- An option or flag with a long name, and the value behind its `=`, if it has one. -/
def long (r : Reading) (name : String) (value : Option String) : Except Refusal Reading := do
  match slotsByName.lookup name, flagsByName.lookup name, value with
  | some slot, _, some value => (← r.settle).assign slot value
  | some slot, _, none =>
    let r ← r.settle
    return { r with pending := some ⟨slot, none⟩, awaitsValue := true }
  | none, some flag, some value => throw (.mistake (.unexpectedValue value flag))
  | none, some flag, none => r.raise flag
  | none, none, _ => throw (.mistake (.unexpectedArgument ("--" ++ name)))

/-- Flags of one letter each. -/
def short (r : Reading) : List Char → Except Refusal Reading
  | [] => .ok r
  | c :: cs =>
    match flagsByLetter.lookup c with
    | some flag => do (← r.raise flag).short cs
    | none => .error (.mistake (.unexpectedArgument (String.ofList ['-', c])))

/-- The value that the pending option waits for, or a path. -/
def plain (r : Reading) (arg : String) : Except Refusal Reading := do
  match r.pending, r.awaitsValue && !r.onlyPaths with
  | some p, true =>
    return { r with pending := some { p with value := some arg }, awaitsValue := false }
  | _, _ =>
    if r.pathTaken then throw (.mistake (.unexpectedArgument arg))
    let r ← r.settle
    return { r with pending := some ⟨.path, some arg⟩, pathTaken := true }

/-- The name and the value of a long option, given the characters behind `--`. -/
def splitAtEquals (cs : List Char) : String × Option String :=
  let name := String.ofList (cs.takeWhile (· ≠ '='))
  match cs.dropWhile (· ≠ '=') with
  | [] => (name, none)
  | _ :: value => (name, some (String.ofList value))

/-- **Reads one argument.** -/
def step (r : Reading) (arg : String) : Except Refusal Reading :=
  if r.onlyPaths then r.plain arg
  else
    match arg.toList with
    | ['-', '-'] => .ok { r with onlyPaths := true }
    | '-' :: '-' :: cs =>
      let (name, value) := splitAtEquals cs
      r.long name value
    | '-' :: c :: cs => r.short (c :: cs)
    | _ => r.plain arg

/-- What has been read, once the last value has been looked at. -/
def arguments (r : Reading) : Arguments where
  path := r.path.getD defaultPath
  format := r.format
  allMismatches := r.allMismatches
  config := r.config
  logLevel := r.logLevel

end Reading

/-- **Reads a command line.** -/
def parse (argv : List String) : Except Refusal Arguments := do
  let r ← argv.foldlM Reading.step {}
  return (← r.settle).arguments

end TagNesting.CommandLine
