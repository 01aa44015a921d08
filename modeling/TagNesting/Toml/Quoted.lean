import TagNesting.Toml.Reader

/-!
# Quoted text

Strings between quotation marks may hold escapes, those between apostrophes may not.  Both come in a
form of one line and, between three marks, in a form of several lines.  In the latter a line end
right after the opening marks is left out, and between quotation marks a backslash at the end of a
line is left out with all blanks and line ends after it.

A string is read from its token.  What is wrong with it shows at an offset into the token.
-/

namespace TagNesting.Toml

/-! ### Escapes -/

/-- The value of a hexadecimal digit. -/
def hexValue? (c : Char) : Option Nat :=
  if '0' ≤ c ∧ c ≤ '9' then some (c.toNat - '0'.toNat)
  else if 'a' ≤ c ∧ c ≤ 'f' then some (c.toNat - 'a'.toNat + 10)
  else if 'A' ≤ c ∧ c ≤ 'F' then some (c.toNat - 'A'.toNat + 10)
  else none

/-- The number that hexadecimal digits denote. -/
def hexNumber (digits : List Char) : Nat :=
  digits.foldl (fun n c => 16 * n + (hexValue? c).getD 0) 0

/-- The character of a code point; halves of surrogate pairs are none. -/
def charOf? (n : Nat) : Option Char := if n.isValidChar then some (Char.ofNat n) else none

/-- The escapes of one letter. -/
def escapes : List (Char × Char) :=
  [('b', '\x08'), ('t', '\t'), ('n', '\n'), ('f', '\x0c'), ('r', '\r'), ('e', '\x1b'), ('"', '"'),
   ('\\', '\\')]

/-- The letters that hexadecimal digits follow, and how many. -/
def hexEscapes : List (Char × Nat) := [('x', 2), ('u', 4), ('U', 8)]

/-- The character that an escape stands for and how many characters the escape takes, given the
offset behind its backslash. -/
def readEscape (offset : Nat) : List Char → Except Nat (Char × Nat)
  | [] => .error offset
  | c :: cs =>
    match escapes.lookup c, hexEscapes.lookup c with
    | some e, _ => .ok (e, 1)
    | none, some width =>
      let digits := (cs.take width).takeWhile fun d => (hexValue? d).isSome
      if digits.length < width then .error (offset + 1 + digits.length)
      else
        match charOf? (hexNumber digits) with
        | some e => .ok (e, 1 + width)
        | none => .error (offset + 1)
    | none, none => .error offset

/-- How many blanks and line ends stand at the front of a text. -/
def spaceLength : List Char → Nat
  | '\r' :: '\n' :: cs => spaceLength cs + 2
  | c :: cs => if isBlank c || c = '\n' then spaceLength cs + 1 else 0
  | [] => 0

/-- How many characters a backslash at the end of a line takes with it, given the offset behind it.
Before the line end only blanks may stand. -/
def readFold (offset : Nat) (cs : List Char) : Except Nat Nat :=
  let blanks := (cs.takeWhile isBlank).length
  match cs.drop blanks with
  | '\n' :: _ | '\r' :: '\n' :: _ => .ok (spaceLength cs)
  | '\r' :: _ => .error (offset + blanks + 1)
  | _ => .error (offset + blanks)

/-! ### Strings -/

/-- Reads what stands between the marks of a string: at most so many characters, from an offset,
after those passed. -/
def readInside (q : Quotation) : Nat → Nat → List Char → List Char → Except Nat (List Char)
  | 0, _, passed, _ | _, _, passed, [] => .ok passed.reverse
  | n + 1, offset, passed, c :: cs =>
    if c = '\\' ∧ q.hasEscapes then
      if q.severalLines && cs.head?.any fun d => isBlank d || d = '\n' || d = '\r' then do
        let length ← readFold (offset + 1) cs
        readInside q n (offset + 1 + length) passed (cs.drop length)
      else do
        let (e, length) ← readEscape (offset + 1) cs
        readInside q n (offset + 1 + length) (e :: passed) (cs.drop length)
    else if c = '\r' ∧ q.severalLines ∧ cs.head? ≠ some '\n' then .error (offset + 1)
    else if isPlain c || (q.severalLines && (c = '\n' || c = '\r')) then
      readInside q n (offset + 1) (c :: passed) cs
    else .error offset

/-- How long the line end at the front of a text is, if there is one. -/
def lineEndLength : List Char → Nat
  | '\n' :: _ => 1
  | '\r' :: '\n' :: _ => 2
  | _ => 0

/-- **The text of a string**, given the characters of its token. -/
def Quotation.read (q : Quotation) (token : List Char) : Except Nat String :=
  let opened := token.drop q.width
  let skipped := if q.severalLines then lineEndLength opened else 0
  let inside := opened.drop skipped
  let marks := List.replicate q.width q.mark
  if marks.isSuffixOf inside then do
    let content := inside.take (inside.length - q.width)
    return String.ofList (← readInside q content.length (q.width + skipped) [] content)
  else .error token.length

end TagNesting.Toml
