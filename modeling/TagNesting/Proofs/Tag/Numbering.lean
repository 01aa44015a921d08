import TagNesting.Proofs.Tag.Reference

/-!
# What a tag takes from its line

The tags of a line carry its number and names of word characters.  The number plays no other part:
the same text under a number `k` higher has the same tags, `k` lines further down
(`tagsOfLine_add`).
-/

namespace TagNesting

open TagNesting.Text.WordClass

/-- The same tag `k` lines further down. -/
def Tag.shift (k : Nat) (t : Tag) : Tag := { t with line := t.line + k }

namespace Cursor

/-- The same place in a line whose number is `k` higher. -/
def shift (k : Nat) (c : Cursor) : Cursor := { c with line := c.line + k }

theorem next?_shift (k : Nat) (c : Cursor) :
    (c.shift k).next? = c.next?.map fun x => (x.1.shift k, x.2.shift k) := by
  unfold next? shift
  rw [Option.map_map]
  rfl

theorem tags_shift (k : Nat) (c : Cursor) : (c.shift k).tags = c.tags.map (Tag.shift k) := by
  fun_induction Cursor.tags c with
  | case1 c h =>
    have h' : (c.shift k).next? = none := by rw [next?_shift, h]; rfl
    rw [tags_of_next?_eq_none h', List.map_nil]
  | case2 c t d h _ ih =>
    have h' : (c.shift k).next? = some (t.shift k, d.shift k) := by rw [next?_shift, h]; rfl
    rw [tags_of_next?_eq_some h', List.map_cons, ih]

/-- What holds of every tag that a cursor on the line can take holds of all tags from there on. -/
theorem forall_mem_tags {P : Tag → Prop} (c : Cursor)
    (hP : ∀ {cs : List Char} {f : Found}, findTag? 0 cs = some f → P (tagOf c.line f)) :
    ∀ t ∈ c.tags, P t := by
  fun_induction Cursor.tags c with
  | case1 c h => exact fun t ht => absurd ht List.not_mem_nil
  | case2 c u d h _ ih =>
    obtain ⟨f, hf, he⟩ := Option.map_eq_some_iff.mp h
    obtain ⟨rfl, rfl⟩ := Prod.mk.inj he
    intro t ht
    rcases List.mem_cons.mp ht with rfl | ht
    · exact hP hf
    · exact ih hP t ht

end Cursor

theorem tagsOfLine_add (number k : Nat) (line : String) :
    tagsOfLine (number + k) line = (tagsOfLine number line).map (Tag.shift k) :=
  Cursor.tags_shift k (Cursor.ofLine number line)

theorem line_of_mem_tagsOfLine {number : Nat} {line : String} {t : Tag}
    (ht : t ∈ tagsOfLine number line) : t.line = number :=
  Cursor.forall_mem_tags (P := fun t => t.line = number) _ (fun _ => rfl) t ht

/-- Names are made of word characters. -/
theorem isWordChar_of_mem_name {number : Nat} {line : String} {t : Tag}
    (ht : t ∈ tagsOfLine number line) : ∀ c ∈ t.name.toList, isWordChar c = true := by
  refine Cursor.forall_mem_tags (P := fun t => ∀ c ∈ t.name.toList, isWordChar c = true)
    (Cursor.ofLine number line) (fun {cs f} hf => ?_) t ht
  obtain ⟨i, -, hfirst⟩ := Reference.findTag?_eq_some hf
  obtain ⟨slash, rest, -, -, -, hword, -⟩ := hfirst.named
  simpa [Cursor.tagOf] using hword

end TagNesting
