/-!
# Places in a text

A place is told by the number of characters before it, and shown as a line and a column, both
counted from 1.

* A line feed is the last character of its line.
* A place behind the last character is shown as the column behind that character, on its line.
* A column counts the characters before it, but at a character that takes several bytes it counts
  the bytes before it.
-/

namespace TagNesting.Toml

/-- A text that is not well formed, and the place where that shows. -/
structure SyntaxError where
  place : Nat
  deriving DecidableEq, Repr

/-- How many characters stand before a place on its line, given all that stand before it. -/
def onLine (before : List Char) : List Char := (before.reverse.takeWhile (· ≠ '\n')).reverse

/-- The line and the column at which a character stands, given the characters before it. -/
def positionAfter (before : List Char) (c : Char) : Nat × Nat :=
  let left := onLine before
  let column := if c.utf8Size = 1 then left.length else left.foldl (fun n d => n + d.utf8Size) 0
  (before.count '\n' + 1, column + 1)

/-- **The line and the column of a place in a text.** -/
def lineAndColumn (text : String) (place : Nat) : Nat × Nat :=
  let cs := text.toList
  match cs.drop place, cs.getLast? with
  | c :: _, _ => positionAfter (cs.take place) c
  | [], none => (1, place + 1)
  | [], some _ =>
    let before := cs.dropLast
    (before.count '\n' + 1, (onLine before).length + 1 + (place + 1 - cs.length))

end TagNesting.Toml
