import TagNesting.Decimal.Binary64

/-!
# Values of a TOML document

A value remembers where it is written, counted in characters from the start of the text, and so does
a key.  A table also remembers how it came to be, which decides what may be added to it later.
-/

namespace TagNesting.Toml

open TagNesting.Decimal

/-- Something and the place where it is written. -/
structure Located (α : Type) where
  place : Nat
  item : α
  deriving Repr

/-- A key, its place, and the value it stands for, with its place. -/
structure Entry (α : Type) where
  key : Located String
  value : Located α
  deriving Repr

/-- A floating-point number. -/
inductive FloatingPoint where
  | finite (negative : Bool) (magnitude : Binary64)
  | infinite (negative : Bool)
  | notANumber
  deriving DecidableEq, Repr

/-- How a table came to be. -/
inductive Form where
  /-- It is the root, or has a header of its own. -/
  | header
  /-- A header names a table inside it. -/
  | implied
  /-- A dotted key names a key inside it. -/
  | dotted
  /-- It is written between braces, and nothing can be added to it. -/
  | inline
  deriving DecidableEq, Repr

/-- A value of a document. -/
inductive Value where
  | string (text : String)
  | integer (value : Int)
  | float (value : FloatingPoint)
  /-- A number that is none of the numbers of 64 bits. -/
  | outOfRange
  | boolean (value : Bool)
  | datetime
  /-- An array between brackets. -/
  | array (items : List (Located Value))
  /-- An array of tables, each with a header of its own. -/
  | tables (items : List (Located Value))
  | table (form : Form) (entries : List (Entry Value))

/-- The keys and values of a table. -/
abbrev Entries := List (Entry Value)

/-! ### Numbers out of range -/

mutual

/-- Whether all numbers in a value are in range. -/
def Value.inRange : Value → Bool
  | .outOfRange => false
  | .array items | .tables items => itemsInRange items
  | .table _ entries => entriesInRange entries
  | _ => true

/-- Whether all numbers in some values are in range. -/
def itemsInRange : List (Located Value) → Bool
  | [] => true
  | ⟨_, v⟩ :: items => v.inRange && itemsInRange items

/-- Whether all numbers in a table are in range. -/
def entriesInRange : List (Entry Value) → Bool
  | [] => true
  | ⟨_, ⟨_, v⟩⟩ :: entries => v.inRange && entriesInRange entries

end

end TagNesting.Toml
