import TagNesting.Toml.Place
import TagNesting.Toml.Value

/-!
# Putting values into tables

A key with several parts leads through tables, which are made where they are missing.  What stands
in the way decides whether that is allowed: a table between braces is complete, a table with a
header of its own cannot be entered by a dotted key, of an array of tables the last one is entered,
and any other value is no table.  No key is given twice.
-/

namespace TagNesting.Toml

/-- A key of one or more parts: those that lead to a table, and the last, which stands in it. -/
structure Path where
  outer : List (Located String)
  last : Located String
  deriving Repr

/-- What is done to a table, and what is learnt from it. -/
abbrev Change (α : Type) := Form → Entries → Except SyntaxError (α × Entries)

/-- The entry of a key. -/
def findKey? (es : Entries) (key : String) : Option (Entry Value) :=
  es.find? fun e => e.key.item = key

/-- The value of a key. -/
def valueOf? (es : Entries) (key : String) : Option Value :=
  (findKey? es key).map fun e => e.value.item

/-- Puts a value in the place of the one that a key has. -/
def putValue (es : Entries) (key : String) (v : Value) : Entries :=
  es.map fun e => if e.key.item = key then { e with value := ⟨e.value.place, v⟩ } else e

/-- The entries without that of a key. -/
def eraseKey (es : Entries) (key : String) : Entries := es.filter fun e => e.key.item ≠ key

/-- Whether a step of a key may enter a table. -/
def Form.admits (form : Form) (dotted : Bool) : Bool :=
  match form with
  | .inline => false
  | .header => !dotted
  | .implied | .dotted => true

/-- **Changes the table that a path leads to**, making the tables that are missing. -/
def descend {α : Type} (dotted : Bool) (change : Change α) : List (Located String) → Change α
  | [], form, es => change form es
  | key :: keys, _, es =>
    match findKey? es key.item with
    | none => do
      let form := if dotted then Form.dotted else Form.implied
      let (a, inner) ← descend dotted change keys form []
      return (a, es ++ [⟨key, ⟨key.place, .table form inner⟩⟩])
    | some e =>
      match e.value.item with
      | .table form inner => do
        unless form.admits dotted do throw ⟨key.place⟩
        let (a, inner) ← descend dotted change keys form inner
        return (a, putValue es key.item (.table form inner))
      | .tables items =>
        match items.reverse with
        | ⟨place, .table form inner⟩ :: before => do
          let (a, inner) ← descend dotted change keys form inner
          let items := before.reverse ++ [⟨place, .table form inner⟩]
          return (a, putValue es key.item (.tables items))
        | _ => throw ⟨key.place⟩
      | _ => throw ⟨key.place⟩

/-- Gives a key a value.  A dotted key leads to a table that has no header of its own. -/
def assign (path : Path) (value : Located Value) (form : Form) (es : Entries) :
    Except SyntaxError Entries := do
  let dotted := !path.outer.isEmpty
  let change : Change Unit := fun form es => do
    if (dotted ∧ !form.admits true) ∨ (findKey? es path.last.item).isSome then
      throw ⟨path.last.place⟩
    return ((), es ++ [⟨path.last, value⟩])
  return (← descend dotted change path.outer form es).2

/-- Takes the table of a header out, to fill it.  It is new, or it has been implied by the header of
a table inside it. -/
def takeTable (path : Path) (root : Entries) : Except SyntaxError (Entries × Entries) :=
  let change : Change Entries := fun _ es => do
    match valueOf? es path.last.item with
    | none => return ([], es)
    | some (.table .implied inner) => return (inner, eraseKey es path.last.item)
    | some _ => throw ⟨path.last.place⟩
  descend false change path.outer .header root

/-- Puts the table of a header back, once it is filled. -/
def putTable (place : Nat) (path : Path) (inner root : Entries) : Except SyntaxError Entries := do
  let entry : Entry Value := ⟨path.last, ⟨place, .table .header inner⟩⟩
  let change : Change Unit := fun _ es => return ((), es ++ [entry])
  return (← descend false change path.outer .header root).2

/-- Adds a filled table to an array of tables. -/
def addTable (place : Nat) (path : Path) (inner root : Entries) : Except SyntaxError Entries := do
  let item : Located Value := ⟨place, .table .header inner⟩
  let change : Change Unit := fun _ es => do
    match valueOf? es path.last.item with
    | none => return ((), es ++ [⟨path.last, ⟨place, .tables [item]⟩⟩])
    | some (.tables items) => return ((), putValue es path.last.item (.tables (items ++ [item])))
    | some _ => throw ⟨path.last.place⟩
  return (← descend false change path.outer .header root).2

end TagNesting.Toml
