/-!
# The lines of a document

A line ends at a line feed; one carriage return directly before that line feed belongs to the line's
end and is dropped.  Any other carriage return is text, also at the very end of the document.  A
line feed at the end of the document ends its last line and starts no further one.

The document is read character by character (`Splitter.step`), so the lines of `d ++ t` are those
that the reading of `t` adds to the state reached after `d`.
-/

namespace TagNesting.Text

/-- The state of the reading: the lines that have ended, latest first, and the characters of the
line that has not, latest first. -/
structure Splitter where
  ended : List (List Char)
  current : List Char
  deriving DecidableEq, Repr

namespace Splitter

/-- Nothing has been read. -/
def empty : Splitter := ⟨[], []⟩

/-- The text of a line that a line feed has just ended, given its characters, latest first. -/
def lineOf : List Char → List Char
  | '\r' :: cs => cs.reverse
  | cs => cs.reverse

/-- Reads one character. -/
def step (s : Splitter) (c : Char) : Splitter :=
  if c = '\n' then ⟨lineOf s.current :: s.ended, []⟩ else ⟨s.ended, c :: s.current⟩

/-- All lines, the one that no line feed has ended included if it holds any character. -/
def lines (s : Splitter) : List (List Char) :=
  if s.current.isEmpty then s.ended.reverse else (s.current.reverse :: s.ended).reverse

end Splitter

/-- **The lines of a text.** -/
def splitLines (text : List Char) : List (List Char) :=
  (text.foldl Splitter.step Splitter.empty).lines

/-- The lines of a document. -/
def linesOf (document : String) : List String :=
  (splitLines document.toList).map String.ofList

/-- Lines as a text, each ended by a line feed. -/
def unlines (lines : List String) : String :=
  String.ofList (lines.flatMap fun l => l.toList ++ ['\n'])

/-- The first line of a text. -/
def firstLine (text : String) : String := String.ofList ((splitLines text.toList).headD [])

end TagNesting.Text
