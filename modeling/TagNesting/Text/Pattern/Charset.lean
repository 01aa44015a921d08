import TagNesting.Text.CaseFold
import TagNesting.Text.DigitClass
import TagNesting.Text.Space
import TagNesting.Text.WordClass

/-!
# Sets of characters

One place of a pattern stands for a set of characters: a range, one of three classes, or what is
made of such sets by the operations on sets.  `anyCase` adds the letters that differ from a member
in case only.
-/

namespace TagNesting.Text

/-- A set of characters. -/
inductive Charset where
  | empty
  | range (first last : Char)
  /-- The decimal digits of all scripts. -/
  | digits
  /-- The characters of the property White_Space. -/
  | spaces
  /-- The word characters. -/
  | words
  | union (a b : Charset)
  | inter (a b : Charset)
  | diff (a b : Charset)
  | symmDiff (a b : Charset)
  | compl (a : Charset)
  | anyCase (a : Charset)
  deriving DecidableEq, Repr

namespace Charset

/-- **Whether a character belongs to a set.** -/
def contains : Charset → Char → Bool
  | .empty, _ => false
  | .range first last, c => first ≤ c && c ≤ last
  | .digits, c => DigitClass.isDecimalDigit c
  | .spaces, c => isSpace c
  | .words, c => WordClass.isWordChar c
  | .union a b, c => a.contains c || b.contains c
  | .inter a b, c => a.contains c && b.contains c
  | .diff a b, c => a.contains c && !b.contains c
  | .symmDiff a b, c => a.contains c != b.contains c
  | .compl a, c => !a.contains c
  | .anyCase a, c => a.contains c || (CaseFold.variants c).any a.contains

/-- The set of one character. -/
def single (c : Char) : Charset := .range c c

/-- All characters. -/
def all : Charset := .compl .empty

/-- The union of some ranges. -/
def ofRanges (rs : List (Char × Char)) : Charset :=
  rs.foldr (fun (a, b) s => .union (.range a b) s) .empty

/-- The set of a letter and those that differ from it in case only. -/
def cases (c : Char) : Charset := ofRanges ((CaseFold.variants c).map fun d => (d, d))

/-- The digits of the first 128 characters. -/
def asciiDigits : Charset := .range '0' '9'

/-- The blank characters of the first 128. -/
def asciiSpaces : Charset := ofRanges [('\t', '\r'), (' ', ' ')]

/-- The word characters of the first 128. -/
def asciiWords : Charset := ofRanges [('0', '9'), ('A', 'Z'), ('_', '_'), ('a', 'z')]

/-- The sets that have a name between brackets and colons. -/
def byName : List (String × Charset) :=
  [("alnum", ofRanges [('0', '9'), ('A', 'Z'), ('a', 'z')]),
   ("alpha", ofRanges [('A', 'Z'), ('a', 'z')]),
   ("ascii", .range '\x00' '\x7f'),
   ("blank", ofRanges [('\t', '\t'), (' ', ' ')]),
   ("cntrl", ofRanges [('\x00', '\x1f'), ('\x7f', '\x7f')]),
   ("digit", asciiDigits),
   ("graph", .range '!' '~'),
   ("lower", .range 'a' 'z'),
   ("print", .range ' ' '~'),
   ("punct", ofRanges [('!', '/'), (':', '@'), ('[', '\x60'), ('\x7b', '~')]),
   ("space", asciiSpaces),
   ("upper", .range 'A' 'Z'),
   ("word", asciiWords),
   ("xdigit", ofRanges [('0', '9'), ('A', 'F'), ('a', 'f')])]

@[simp] theorem contains_single (c d : Char) : (single c).contains d = decide (c = d) := by
  simp only [single, contains, ← Bool.decide_and, decide_eq_decide]
  exact ⟨fun h => Char.le_antisymm h.1 h.2, fun h => h ▸ ⟨Char.le_refl c, Char.le_refl c⟩⟩

@[simp] theorem contains_all (c : Char) : all.contains c = true := rfl

end Charset

end TagNesting.Text
