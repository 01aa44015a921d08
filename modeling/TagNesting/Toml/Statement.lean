import TagNesting.Toml.Quoted
import TagNesting.Toml.Scalar
import TagNesting.Toml.Table

/-!
# The statements of a document

A document is a sequence of lines, each of which is empty, gives a key a value, or is the header of
a table.  Values nest: arrays and tables between braces hold values, but no deeper than
`depthLimit`, and no key has more parts than `keyLimit`.

The shape of the whole text is read before the content of its tokens counts.  So a reader fails at a
fault of shape, such as a bracket that is not closed, and hands on a fault of content, such as a
wrong escape, as its result.  Where a key or a value is missing, an empty word stands for it, which
is a fault of content.
-/

namespace TagNesting.Toml

open Reader

/-- How deep arrays and tables between braces may be nested. -/
def depthLimit : Nat := 80

/-- How many parts a key may have. -/
def keyLimit : Nat := 80

/-- What tokens stand for, or the place of a fault in them. -/
abbrev Content (α : Type) := Except SyntaxError α

/-- What is read from a token; a fault shows at an offset into it. -/
def contentAt {α : Type} (place : Nat) : Except Nat α → Content α
  | .ok a => .ok a
  | .error offset => .error ⟨place + offset⟩

/-- A key and its value. -/
structure Member where
  path : Path
  value : Located Value

/-- A line of a document that is not empty. -/
inductive Statement where
  /-- A key and its value. -/
  | assignment (content : Content Member)
  /-- The header of a table. -/
  | header (place : Nat) (path : Content Path)
  /-- The header of a further table of an array. -/
  | tablesHeader (place : Nat) (path : Content Path)

/-! ### Keys -/

/-- A character of a key that is not quoted. -/
def isKeyChar (c : Char) : Bool := c.isAlphanum || c = '_' || c = '-'

/-- The name that a key's part is written as. -/
def readName (t : Token) : Except Nat String :=
  match t.kind with
  | .quoted q => if q.severalLines then .error 0 else q.read t.text
  | _ =>
    let valid := t.text.takeWhile isKeyChar
    if valid.isEmpty ∨ valid.length < t.text.length then .error valid.length
    else .ok (String.ofList valid)

/-- The names of a key's parts, of which there may be so many. -/
def namesOf : Nat → List Token → Content (List (Located String))
  | _, [] => .ok []
  | 0, t :: _ => .error ⟨t.place⟩
  | n + 1, t :: ts => do
    let name ← contentAt t.place (readName t)
    return ⟨t.place, name⟩ :: (← namesOf n ts)

/-- The path of a key's parts. -/
def pathOf (parts : List Token) : Content Path := do
  match (← namesOf keyLimit parts).reverse with
  | last :: outer => return ⟨outer.reverse, last⟩
  | [] => throw ⟨0⟩

/-- The empty word before a token. -/
def missing (t : Token) : Token := ⟨.word, t.place, []⟩

/-- The parts of a key that have been read, and whether one must follow. -/
structure Parts where
  parts : List Token := []
  awaited : Bool := true

/-- Reads the parts of a key, which dots divide, after those given, and says whether the last one is
there. -/
def readParts : Parts → Reader (List Token × Bool) :=
  repeatStep fun p => do
    let t ← peek
    match t.kind with
    | .blank =>
      skip
      return .inl p
    | .dot =>
      skip
      return .inl ⟨if p.awaited then p.parts ++ [missing t] else p.parts, true⟩
    | .word | .quoted _ =>
      if p.awaited then
        skip
        return .inl ⟨p.parts ++ [t], false⟩
      return .inr (p.parts, true)
    | _ => return .inr (if p.awaited then (p.parts ++ [missing t], false) else (p.parts, true))

/-- Reads a key at a token.  It may be missing before a dot or an equals sign. -/
def readKey (t : Token) : Reader (Content Path) := do
  match t.kind with
  | .word | .quoted _ =>
    skip
    return pathOf (← readParts ⟨[t], false⟩).1
  | .dot | .equals => return pathOf (← readParts ⟨[missing t], false⟩).1
  | _ => failAt t.place

/-! ### Values -/

/-- Whether a value may begin with a token. -/
def Token.beginsValue (t : Token) : Bool :=
  match t.kind with
  | .word | .dot | .quoted _ | .leftBracket | .leftBrace => true
  | _ => false

/-- The value of an unquoted run of tokens. -/
def scalarOf (place : Nat) (run : List Token) : Content (Located Value) := do
  let text := (run.flatMap (·.text)).reverse.dropWhile isBlank |>.reverse
  return ⟨place, ← contentAt place (readScalar text)⟩

/-- The empty word in the place of a value before a token. -/
def missingValue (t : Token) : Content (Located Value) := scalarOf t.place []

/-- Reads a value that is neither quoted nor between brackets: words, dots and the blanks between
them. -/
def readRun (place : Nat) : Reader (Content (Located Value)) :=
  repeatStep (fun (run : List Token) => do
    let t ← peek
    if t.kind = .word ∨ t.kind = .dot ∨ t.kind = .blank then
      skip
      return .inl (t :: run)
    return .inr (scalarOf place run.reverse)) []

/-- Reads the items of an array up to its closing bracket: commas divide them, and one may follow the
last. -/
def readItems (value : Reader (Content (Located Value))) :
    Reader (List (Content (Located Value))) :=
  repeatStep (fun ((items, awaited) : List (Content (Located Value)) × Bool) => do
    let t ← peek
    if ← acceptSpace then return .inl (items, awaited)
    match t.kind with
    | .rightBracket =>
      skip
      return .inr items.reverse
    | .comma =>
      if awaited then failAt t.place
      skip
      return .inl (items, true)
    | _ =>
      unless awaited && t.beginsValue do failAt t.place
      return .inl ((← value) :: items, false)) ([], true)

/-- What comes next in a table between braces. -/
inductive Awaited where
  | key
  | equals (path : Content Path)
  | value (path : Content Path)
  | comma

/-- The key and the value of a member. -/
def memberOf (path : Content Path) (value : Content (Located Value)) : Content Member := do
  return ⟨← path, ← value⟩

/-- Reads the members of a table between braces up to the closing one: commas divide them, and one
may follow the last.  Space may stand anywhere. -/
def readMembers (value : Reader (Content (Located Value))) : Reader (List (Content Member)) :=
  repeatStep (fun ((members, awaited) : List (Content Member) × Awaited) => do
    let t ← peek
    if ← acceptSpace then return .inl (members, awaited)
    match awaited with
    | .key =>
      if ← accept .rightBrace then return .inr members.reverse
      let path ← readKey t
      return .inl (members, if ← accept .equals then .value path else .equals path)
    | .equals path =>
      unless ← accept .equals do failAt t.place
      return .inl (members, .value path)
    | .value path =>
      unless t.beginsValue do failAt t.place
      let v ← value
      return .inl (memberOf path v :: members, .comma)
    | .comma =>
      if ← accept .rightBrace then return .inr members.reverse
      unless ← accept .comma do failAt t.place
      return .inl (members, .key)) ([], .key)

/-- The table of the members between braces. -/
def inlineTable (members : List (Content Member)) : Content Value := do
  let entries ← members.foldlM (fun es content => do
    let m ← content
    assign m.path m.value .inline es) []
  return .table .inline entries

/-- Reads a value, given how the values inside it are read if there is room for any. -/
def readValueWith (inner : Option (Reader (Content (Located Value)))) :
    Reader (Content (Located Value)) := do
  let t ← peek
  match t.kind, inner with
  | .comment, _ | .comma, _ | .lineEnd, _ | .finish, _ => return missingValue t
  | .quoted q, _ =>
    skip
    return do return ⟨t.place, .string (← contentAt t.place (q.read t.text))⟩
  | .word, _ | .dot, _ | .blank, _ => readRun t.place
  | .leftBracket, some value =>
    skip
    let items ← readItems value
    return do return ⟨t.place, .array (← items.mapM id)⟩
  | .leftBrace, some value =>
    skip
    let members ← readMembers value
    return do return ⟨t.place, ← inlineTable members⟩
  | _, _ => failAt t.place

/-- **Reads a value** with room for that many levels of arrays and tables in it. -/
def readValue : Nat → Reader (Content (Located Value))
  | 0 => readValueWith none
  | n + 1 => readValueWith (some (readValue n))

/-! ### Statements -/

/-- Reads a header behind its first bracket. -/
def readHeader (start : Token) : Reader Statement := do
  let several ← accept .leftBracket
  let (parts, complete) ← readParts {}
  let t ← peek
  if t.kind = .rightBracket then
    skip
    if several then
      unless ← accept .rightBracket do failAt t.stop
    endOfStatement
  else
    if complete then failAt ((parts.getLast?.map (·.stop)).getD t.place)
    skipLine
  let path := pathOf parts
  return if several then .tablesHeader start.place path else .header start.place path

/-- Reads an assignment, given its first token. -/
def readAssignment (t : Token) : Reader Statement := do
  let path ← readKey t
  unless ← accept .equals do failAt (← peek).place
  skipBlanks
  let value ← readValue depthLimit
  endOfStatement
  return .assignment (memberOf path value)

/-- Reads all statements. -/
def readStatements : Reader (List Statement) :=
  repeatStep (fun (passed : List Statement) => do
    let t ← peek
    if ← acceptSpace then return .inl passed
    if t.kind = .finish then return .inr passed.reverse
    if ← accept .leftBracket then return .inl ((← readHeader t) :: passed)
    return .inl ((← readAssignment t) :: passed)) []

/-- **The statements of a text.** -/
def statements (text : String) : Except SyntaxError (List Statement) :=
  readStatements.run' (Input.ofText text)

end TagNesting.Toml
