/-!
# Tokens

A text is cut into tokens before anything is made of it: signs, blanks, line ends, comments, strings
and words.  A word is any run of other characters; quotation marks that do not begin a token belong
to it.  A string that is not closed takes the rest of the line, or of the text if it may have
several lines.  So every text has tokens, and what is wrong with them is seen later.
-/

namespace TagNesting.Toml

/-- How a string is quoted. -/
inductive Quotation where
  /-- Between quotation marks. -/
  | basic
  /-- Between apostrophes. -/
  | literal
  /-- On several lines, between three quotation marks. -/
  | basicLines
  /-- On several lines, between three apostrophes. -/
  | literalLines
  deriving DecidableEq, Repr

namespace Quotation

/-- The character of the marks. -/
def mark : Quotation → Char
  | .basic | .basicLines => '"'
  | .literal | .literalLines => '\''

/-- Whether the string may have several lines. -/
def severalLines : Quotation → Bool
  | .basic | .literal => false
  | .basicLines | .literalLines => true

/-- How many marks stand on each side. -/
def width (q : Quotation) : Nat := if q.severalLines then 3 else 1

/-- Whether a backslash begins an escape. -/
def hasEscapes (q : Quotation) : Bool := q.mark = '"'

end Quotation

/-- What a token is. -/
inductive Token.Kind where
  | dot
  | equals
  | comma
  | leftBracket
  | rightBracket
  | leftBrace
  | rightBrace
  | blank
  | lineEnd
  | comment
  | quoted (q : Quotation)
  | word
  /-- The end of the text. -/
  | finish
  deriving DecidableEq, Repr

/-- A token, where it begins, and its characters. -/
structure Token where
  kind : Token.Kind
  place : Nat
  text : List Char
  deriving DecidableEq, Repr

/-- The place behind a token. -/
def Token.stop (t : Token) : Nat := t.place + t.text.length

/-! ### Classes of characters -/

/-- A blank or a tab. -/
def isBlank (c : Char) : Bool := c = ' ' || c = '\t'

/-- The signs that are tokens by themselves. -/
def signs : List (Char × Token.Kind) :=
  [('.', .dot), ('=', .equals), (',', .comma), ('[', .leftBracket), (']', .rightBracket),
   ('\x7b', .leftBrace), ('\x7d', .rightBrace)]

/-- A character at which a word ends. -/
def endsWord (c : Char) : Bool :=
  (signs.lookup c).isSome || isBlank c || c ∈ ['#', '\r', '\n']

/-! ### The length of a string -/

/-- Whether two characters are an escape that hides a mark or a backslash. -/
def hides (mark c d : Char) : Bool := mark = '"' && c = '\\' && (d = '"' || d = '\\')

/-- How many characters a string of one line takes behind its opening mark: up to its closing mark
or, where that is missing, up to the end of the line. -/
def lineLength (mark : Char) : List Char → Nat
  | [] => 0
  | [c] => if c = '\n' then 0 else 1
  | c :: d :: cs =>
    if c = mark then 1
    else if c = '\n' then 0
    else if hides mark c d then lineLength mark cs + 2
    else lineLength mark (d :: cs) + 1

/-- How many characters a string of several lines takes behind its opening marks: up to its closing
marks, before which up to two more may stand, or up to the end of the text. -/
def linesLength (mark : Char) : List Char → Nat
  | [] => 0
  | [_] => 1
  | c :: d :: cs =>
    if c = mark ∧ d = mark ∧ cs.head? = some mark then
      min 5 ((c :: d :: cs).takeWhile (· = mark)).length
    else if hides mark c d then linesLength mark cs + 2
    else linesLength mark (d :: cs) + 1

/-! ### Tokens -/

/-- The kind and the length of the string at the front of a text, given its marks. -/
def frontString (line lines : Quotation) (cs : List Char) : Token.Kind × Nat :=
  let mark := line.mark
  if [mark, mark, mark].isPrefixOf cs then (.quoted lines, linesLength mark (cs.drop 3) + 3)
  else (.quoted line, lineLength mark (cs.drop 1) + 1)

/-- The kind and the length of the token at the front of a text. -/
def front (c : Char) (cs : List Char) : Token.Kind × Nat :=
  match signs.lookup c, c with
  | some kind, _ => (kind, 1)
  | none, '#' => (.comment, (cs.takeWhile fun d => d ≠ '\r' && d ≠ '\n').length + 1)
  | none, '\n' => (.lineEnd, 1)
  | none, '\r' => (.lineEnd, if cs.head? = some '\n' then 2 else 1)
  | none, '"' => frontString .basic .basicLines (c :: cs)
  | none, '\'' => frontString .literal .literalLines (c :: cs)
  | none, _ =>
    if isBlank c then (.blank, (cs.takeWhile isBlank).length + 1)
    else (.word, (cs.takeWhile fun d => !endsWord d).length + 1)

/-- The tokens of a text that begins at a place, at most so many. -/
def tokensFrom : Nat → Nat → List Char → List Token
  | 0, _, _ | _, _, [] => []
  | n + 1, place, c :: cs =>
    let (kind, length) := front c cs
    ⟨kind, place, (c :: cs).take length⟩ :: tokensFrom n (place + length) ((c :: cs).drop length)

/-- **The tokens of a text.**  A byte-order mark at its start is left out. -/
def tokensOf (text : List Char) : List Token :=
  match text with
  | '\uFEFF' :: cs => tokensFrom cs.length 1 cs
  | cs => tokensFrom cs.length 0 cs

end TagNesting.Toml
