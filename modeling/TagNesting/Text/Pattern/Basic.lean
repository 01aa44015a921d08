import TagNesting.Text.Pattern.Charset

/-!
# Patterns and where they match

A pattern describes texts: one character out of a set, one pattern after another, a choice between
two, or a pattern several times.  An anchor describes a place instead, by the characters on its two
sides.

A set of places in a text is a number whose bits are the places; place `i` has `i` characters before
it.  `reach` takes the places where a pattern may begin to those where it may then end, all at once:
a character moves every place whose next character belongs to the set by one, which is a doubling.
A repetition is iterated until the places no longer change, so however often it is to be repeated,
the length of the text bounds the work.  `occursIn` lets the pattern begin anywhere.
-/

namespace TagNesting.Text

/-- What is asked of the two sides of a place. -/
inductive Anchor where
  /-- The start of the text. -/
  | textStart
  /-- The end of the text. -/
  | textEnd
  /-- The start of a line, which a line feed ends. -/
  | lineStart
  /-- The end of a line, which a line feed ends. -/
  | lineEnd
  /-- The start of a line, which a line feed, a carriage return or both end. -/
  | lineStartCR
  /-- The end of a line, which a line feed, a carriage return or both end. -/
  | lineEndCR
  /-- A word character on exactly one side. -/
  | boundary (letters : Charset)
  /-- A word character on both sides or on neither. -/
  | noBoundary (letters : Charset)
  /-- A word character on the right side only. -/
  | wordStart (letters : Charset)
  /-- A word character on the left side only. -/
  | wordEnd (letters : Charset)
  /-- No word character on the left side. -/
  | halfStart (letters : Charset)
  /-- No word character on the right side. -/
  | halfEnd (letters : Charset)
  deriving DecidableEq, Repr

/-- A pattern. -/
inductive Pattern where
  /-- The empty text. -/
  | empty
  /-- One character of a set. -/
  | one (set : Charset)
  /-- A place. -/
  | place (anchor : Anchor)
  /-- One pattern after the other. -/
  | both (first second : Pattern)
  /-- One pattern or the other. -/
  | either (left right : Pattern)
  /-- A pattern several times, at least and at most that often. -/
  | several (pattern : Pattern) (least : Nat) (most : Option Nat)
  deriving DecidableEq, Repr

/-! ### Places -/

/-- Whether an anchor holds between two characters; at an end of the text one is missing. -/
def Anchor.holds (a : Anchor) (left right : Option Char) : Bool :=
  match a with
  | .textStart => left.isNone
  | .textEnd => right.isNone
  | .lineStart => left.isNone || left == some '\n'
  | .lineEnd => right.isNone || right == some '\n'
  | .lineStartCR => left.isNone || left == some '\n' || (left == some '\r' && right != some '\n')
  | .lineEndCR => right.isNone || right == some '\r' || (right == some '\n' && left != some '\r')
  | .boundary letters => left.any letters.contains != right.any letters.contains
  | .noBoundary letters => left.any letters.contains == right.any letters.contains
  | .wordStart letters => !left.any letters.contains && right.any letters.contains
  | .wordEnd letters => left.any letters.contains && !right.any letters.contains
  | .halfStart letters => !left.any letters.contains
  | .halfEnd letters => !right.any letters.contains

/-- A set of places in a text, as a number whose bits are the places. -/
abbrev Places := Nat

namespace Places

/-- The places at which a list is true. -/
def ofList (bits : List Bool) : Places := bits.foldr (fun b n => 2 * n + b.toNat) 0

/-- The places whose next character belongs to a set. -/
def before (set : Charset) (text : List Char) : Places := ofList (text.map set.contains)

/-- Whether an anchor holds, place by place, given the character on the left of the first. -/
def anchored (a : Anchor) (left : Option Char) : List Char → List Bool
  | [] => [a.holds left none]
  | c :: cs => a.holds left (some c) :: anchored a (some c) cs

/-- All places of a text. -/
def all (text : List Char) : Places := ofList (List.replicate (text.length + 1) true)

/-- Repeats a step so many times; once the places stay the same, no step changes them. -/
def iterate (step : Places → Places) : Nat → Places → Places
  | 0, s => s
  | n + 1, s =>
    let t := step s
    if t = s then s else iterate step n t

/-- The places that at most so many steps lead to. -/
def spread (step : Places → Places) (n : Nat) (s : Places) : Places :=
  iterate (fun t => t ||| step t) n s

end Places

/-! ### Matching -/

namespace Pattern

/-- **The places where a pattern may end** if it begins at one of the given places. -/
def reach (text : List Char) : Pattern → Places → Places
  | .empty, s => s
  | .one set, s => 2 * (s &&& Places.before set text)
  | .place a, s => s &&& Places.ofList (Places.anchored a none text)
  | .both p q, s => q.reach text (p.reach text s)
  | .either p q, s => p.reach text s ||| q.reach text s
  | .several p least most, s =>
    let more := match most with
      | some most => min (most - least) (text.length + 1)
      | none => text.length + 1
    Places.spread (p.reach text) more (Places.iterate (p.reach text) least s)

/-- **Whether a pattern matches somewhere in a text.** -/
def occursIn (p : Pattern) (text : String) : Bool :=
  p.reach text.toList (Places.all text.toList) ≠ 0

/-- Several patterns one after the other. -/
def sequence (ps : List Pattern) : Pattern :=
  match ps with
  | [] => .empty
  | p :: ps => ps.foldl .both p

/-- A choice between several patterns. -/
def choice (ps : List Pattern) : Pattern :=
  match ps with
  | [] => .empty
  | p :: ps => ps.foldl .either p

@[simp] theorem occursIn_empty (text : String) : empty.occursIn text = true := by
  have h : ∀ n, Places.ofList (List.replicate (n + 1) true) ≠ 0 := fun n => by
    simp [Places.ofList, List.replicate_succ]
  exact decide_eq_true (h text.toList.length)

end Pattern

end TagNesting.Text
