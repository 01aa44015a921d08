import TagNesting.Toml.Statement

/-!
# Documents

The statements of a text, one after the other, build the root table.  A header takes its table out
of the root, the assignments after it fill that table, and the next header or the end of the text
puts it back.
-/

namespace TagNesting.Toml

/-- A header, and whether its table is a further one of an array. -/
structure Header where
  place : Nat
  path : Path
  further : Bool

/-- The root table so far, the header whose table is being filled, and that table; before the first
header the root itself is filled. -/
structure Document where
  root : Entries := []
  header : Option Header := none
  current : Entries := []

namespace Document

/-- Puts the table that is being filled back. -/
def close (d : Document) : Except SyntaxError Entries :=
  match d.header with
  | none => .ok d.current
  | some h =>
    if h.further then addTable h.place h.path d.current d.root
    else putTable h.place h.path d.current d.root

/-- Takes one statement. -/
def step (d : Document) : Statement → Except SyntaxError Document
  | .assignment content => do
    let m ← content
    return { d with current := ← assign m.path m.value .header d.current }
  | .header place path => do
    let root ← d.close
    let path ← path
    let (current, root) ← takeTable path root
    return ⟨root, some ⟨place, path, false⟩, current⟩
  | .tablesHeader place path => do
    let root ← d.close
    return ⟨root, some ⟨place, ← path, true⟩, []⟩

end Document

/-- **The root table of a text.** -/
def parse (text : String) : Except SyntaxError Entries := do
  (← (← statements text).foldlM Document.step {}).close

end TagNesting.Toml
