/-!
# JSON texts

The values that a report is made of, and their indented form: two blanks a level, each member of an
array or an object on a line of its own, `[]` and `{}` for empty ones, a colon and a blank between
key and value.  In strings only the quotation mark, the backslash and the control characters below
the blank are escaped, the latter by their short form where there is one and otherwise by four
hexadecimal digits.
-/

namespace TagNesting

/-- A JSON value without fractions, signs and null. -/
inductive Json where
  | bool (value : Bool)
  | number (value : Nat)
  | string (value : String)
  | array (items : List Json)
  | object (members : List (String × Json))

namespace Json

/-! ### Strings -/

/-- A hexadecimal digit in lower case. -/
def hexDigit (n : Nat) : Char :=
  if n < 10 then Char.ofNat ('0'.toNat + n) else Char.ofNat ('a'.toNat + (n - 10))

/-- A character inside a string. -/
def escape (c : Char) : List Char :=
  if c = '"' then ['\\', '"']
  else if c = '\\' then ['\\', '\\']
  else if c = '\n' then ['\\', 'n']
  else if c = '\r' then ['\\', 'r']
  else if c = '\t' then ['\\', 't']
  else if c = '\x08' then ['\\', 'b']
  else if c = '\x0c' then ['\\', 'f']
  else if c.toNat < 0x20 then
    ['\\', 'u', '0', '0', hexDigit (c.toNat / 16), hexDigit (c.toNat % 16)]
  else [c]

/-- A string between quotation marks. -/
def quote (s : String) : List Char := '"' :: (s.toList.flatMap escape ++ ['"'])

/-! ### Values -/

/-- The start of a line at a level. -/
def newline (level : Nat) : List Char := '\n' :: List.replicate (2 * level) ' '

/-- Members between brackets, each on a line of its own at the level inside. -/
def enclose (left right : Char) (level : Nat) (members : List (List Char)) : List Char :=
  match members with
  | [] => [left, right]
  | first :: others =>
    left :: (newline (level + 1) ++ first ++
      others.flatMap (fun m => ',' :: (newline (level + 1) ++ m)) ++ newline level ++ [right])

mutual

/-- **The indented form of a value** whose first line stands at a level. -/
def render (level : Nat) : Json → List Char
  | .bool true => "true".toList
  | .bool false => "false".toList
  | .number n => (toString n).toList
  | .string s => quote s
  | .array items => enclose '[' ']' level (renderItems (level + 1) items)
  | .object members => enclose '\x7b' '\x7d' level (renderMembers (level + 1) members)

/-- The indented forms of an array's items. -/
def renderItems (level : Nat) : List Json → List (List Char)
  | [] => []
  | v :: vs => render level v :: renderItems level vs

/-- The indented forms of an object's members. -/
def renderMembers (level : Nat) : List (String × Json) → List (List Char)
  | [] => []
  | (key, v) :: ms => (quote key ++ ':' :: ' ' :: render level v) :: renderMembers level ms

end

/-- The indented form of a value. -/
def pretty (v : Json) : String := String.ofList (render 0 v)

end Json

end TagNesting
