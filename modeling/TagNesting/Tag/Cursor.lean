import TagNesting.Tag.Basic
import TagNesting.Text.Comment
import TagNesting.Text.WordClass

/-!
# Taking the tags of a line one by one

A tag is a `<`, an optional `/`, a name (a run of at least one word character), and all that follows
up to the first `>`.  Attributes are not looked at: a `>` inside one ends the tag, and a `<` inside
one belongs to the tag.  A `<` that no name follows is text.

`findTag?` gives the first tag of a text.  A `Cursor` is a place in a line; `Cursor.next?` gives the
first tag at or after it and the place just after that tag's `>`.  The cursor keeps the text that
follows it, and every tag shortens that text (`Cursor.next?_length_lt`), so a line has finitely many
tags.
-/

namespace TagNesting

open TagNesting.Text TagNesting.Text.WordClass

/-! ### The first tag of a text -/

/-- The text without the slash that it may begin with. -/
def dropSlash : List Char → List Char
  | '/' :: cs => cs
  | cs => cs

/-- The name of a tag, given the text after its `<`; empty if that `<` begins no tag. -/
def nameAt (cs : List Char) : List Char := (dropSlash cs).takeWhile isWordChar

/-- A tag found in a text. -/
structure Found where
  /-- How many characters stand before its `<`. -/
  skipped : Nat
  /-- The characters between its `<` and its `>`. -/
  body : List Char
  name : List Char
  /-- The text after its `>`. -/
  rest : List Char
  deriving DecidableEq, Repr

/-- The text of a tag, from `<` to `>`. -/
def Found.text (f : Found) : List Char := '<' :: f.body ++ ['>']

/-- **The first tag of a text** that `skipped` characters precede.  Where a name stands but no `>`
follows, no later `<` can begin a tag either, so the search ends. -/
def findTag? (skipped : Nat) : List Char → Option Found
  | [] => none
  | c :: cs =>
    if c = '<' ∧ nameAt cs ≠ [] then
      match cs.dropWhile (· ≠ '>') with
      | [] => none
      | _ :: rest => some ⟨skipped, cs.takeWhile (· ≠ '>'), nameAt cs, rest⟩
    else findTag? (skipped + 1) cs

/-- The text after a tag is shorter than the text it was found in. -/
theorem findTag?_length_lt {skipped : Nat} {cs : List Char} {f : Found}
    (h : findTag? skipped cs = some f) : f.rest.length < cs.length := by
  fun_induction findTag? skipped cs with
  | case1 => simp at h
  | case2 => simp at h
  | case3 skipped c cs hc d rest hd =>
    have hlen : (cs.dropWhile (· ≠ '>')).length ≤ cs.length :=
      (List.dropWhile_suffix _).length_le
    rw [hd, List.length_cons] at hlen
    obtain rfl := Option.some.inj h
    simp only [List.length_cons]
    omega
  | case4 skipped c cs hc ih =>
    have := ih h
    simp only [List.length_cons]
    omega

/-! ### Cursors -/

/-- A place in a line from which tags are still to be taken. -/
structure Cursor where
  /-- The number of the line, which each of its tags carries. -/
  line : Nat
  /-- How many characters stand before the cursor. -/
  pos : Nat
  /-- The characters after the cursor. -/
  rest : List Char
  deriving DecidableEq, Repr

namespace Cursor

/-- The start of a line's text, comment included. -/
def ofText (line : Nat) (text : String) : Cursor := ⟨line, 0, text.toList⟩

/-- The start of a line whose comment is left out. -/
def ofLine (line : Nat) (text : String) : Cursor := ⟨line, 0, beforeComment text.toList⟩

/-- The tag of a line that was found there. -/
def tagOf (line : Nat) (f : Found) : Tag :=
  ⟨Kind.classify f.text (String.ofList f.name), String.ofList f.name, line⟩

/-- **The next tag** and the place after it, or nothing if no tag follows. -/
def next? (c : Cursor) : Option (Tag × Cursor) :=
  (findTag? 0 c.rest).map fun f =>
    (tagOf c.line f, ⟨c.line, c.pos + f.skipped + f.text.length, f.rest⟩)

theorem next?_length_lt {c d : Cursor} {t : Tag} (h : c.next? = some (t, d)) :
    d.rest.length < c.rest.length := by
  obtain ⟨f, hf, hd⟩ := Option.map_eq_some_iff.1 h
  obtain ⟨-, rfl⟩ := Prod.mk.inj hd
  exact findTag?_length_lt hf

/-- All tags from here to the end of the line, left to right. -/
def tags (c : Cursor) : List Tag :=
  match h : c.next? with
  | none => []
  | some (t, d) =>
    have := next?_length_lt h
    t :: d.tags
termination_by c.rest.length

/-- The place after the last tag. -/
def last (c : Cursor) : Cursor :=
  match h : c.next? with
  | none => c
  | some (_, d) =>
    have := next?_length_lt h
    d.last
termination_by c.rest.length

theorem tags_of_next?_eq_none {c : Cursor} (h : c.next? = none) : c.tags = [] := by
  rw [tags]
  split
  · rfl
  · simp_all

theorem tags_of_next?_eq_some {c d : Cursor} {t : Tag} (h : c.next? = some (t, d)) :
    c.tags = t :: d.tags := by
  rw [tags]
  split
  · simp_all
  · simp_all

end Cursor

/-- The tags of a text in which nothing is taken for a comment. -/
def tagsOfText (line : Nat) (text : String) : List Tag := (Cursor.ofText line text).tags

/-- The tags of a line before its comment. -/
def tagsOfLine (line : Nat) (text : String) : List Tag := (Cursor.ofLine line text).tags

end TagNesting
