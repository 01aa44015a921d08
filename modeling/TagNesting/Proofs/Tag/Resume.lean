import TagNesting.Proofs.Tag.Reference
import TagNesting.Proofs.Text.Growth

/-!
# Taking tags from a text that goes on

More text put after a text leaves the tags found so far as they are: the tags of the longer text are
those of the shorter one, and then those found from the place after its last tag on
(`Cursor.tags_extend`).  Text without a `>` ends no tag, so it adds none
(`Cursor.tags_extend_of_notMem`).

Together with what more text does to lines and comments, the tags of a line that goes on begin with
the tags found so far (`prefix_tagsOfLine`).  A carriage return or a comment at the end of a line
changes none of its tags (`tagsOfLine_concat_return`, `tagsOfLine_append_mark`).
-/

namespace TagNesting

open TagNesting.Text TagNesting.Reference

/-! ### The first tag of a text that goes on -/

/-- A `>` fixes the name before it. -/
theorem nameAt_append {cs : List Char} (h : '>' ∈ cs) (more : List Char) :
    nameAt (cs ++ more) = nameAt cs := by
  obtain ⟨front, rest, rfl, -⟩ := List.eq_append_cons_of_mem h
  rw [List.append_assoc, List.cons_append, nameAt_gt, nameAt_gt]

theorem takeWhile_gt {body : List Char} (h : '>' ∉ body) (rest : List Char) :
    (body ++ '>' :: rest).takeWhile (· ≠ '>') = body := by
  have hbody : ∀ c ∈ body, decide (c ≠ '>') = true := by
    intro c hc
    rw [decide_eq_true_eq]
    rintro rfl
    exact h hc
  rw [List.takeWhile_append_of_pos hbody, List.takeWhile_cons_of_neg (by simp), List.append_nil]

theorem dropWhile_gt {body : List Char} (h : '>' ∉ body) (rest : List Char) :
    (body ++ '>' :: rest).dropWhile (· ≠ '>') = '>' :: rest := by
  have he := List.takeWhile_append_dropWhile (p := (· ≠ '>')) (l := body ++ '>' :: rest)
  rw [takeWhile_gt h] at he
  exact List.append_cancel_left he

/-- **A tag that was found is found in a text that goes on**, and more follows it. -/
theorem findTag?_append {skipped : Nat} {cs : List Char} {f : Found}
    (h : findTag? skipped cs = some f) (more : List Char) :
    findTag? skipped (cs ++ more) = some { f with rest := f.rest ++ more } := by
  fun_induction findTag? skipped cs with
  | case1 => exact absurd h (by simp)
  | case2 => exact absurd h (by simp)
  | case3 skipped c cs hc d rest hd =>
    obtain rfl := Option.some.inj h
    obtain ⟨hsplit, hbody⟩ := dropWhile_gt_eq_cons hd
    have hgt : '>' ∈ cs := by rw [hsplit]; simp
    have hmore : cs ++ more = cs.takeWhile (· ≠ '>') ++ '>' :: (rest ++ more) := by
      conv_lhs => rw [hsplit]
      rw [List.append_assoc, List.cons_append]
    rw [List.cons_append, findTag?, nameAt_append hgt, if_pos hc, hmore, takeWhile_gt hbody,
      dropWhile_gt hbody]
  | case4 skipped c cs hc ih =>
    obtain ⟨i, -, hf⟩ := findTag?_eq_some h
    have hgt : '>' ∈ cs := List.mem_of_mem_drop hf.begins.gt_mem
    rw [List.cons_append, findTag?, nameAt_append hgt, if_neg hc]
    exact ih h

/-- Whether a tag begins a text that holds a `>` does not depend on what follows. -/
theorem begins_append_iff {cs : List Char} (h : '>' ∈ cs) (more : List Char) :
    Begins (cs ++ more) ↔ Begins cs := by
  rcases cs with _ | ⟨c, cs⟩
  · exact absurd h List.not_mem_nil
  rw [List.cons_append, begins_cons_iff, begins_cons_iff]
  by_cases hc : c = '<'
  · have hgt : '>' ∈ cs := by
      rw [hc] at h
      simpa using h
    rw [nameAt_append hgt]
    simp [hgt]
  · simp [hc]

/-- No tag begins in text without a `>` that did not begin before it. -/
theorem begins_of_append {cs more : List Char} (hm : '>' ∉ more) (h : Begins (cs ++ more)) :
    Begins cs := by
  have hgt : '>' ∈ cs := (List.mem_append.mp h.gt_mem).resolve_right hm
  exact (begins_append_iff hgt more).mp h

/-- Text without a `>` ends no tag. -/
theorem findTag?_append_eq_none {skipped : Nat} {cs more : List Char} (hm : '>' ∉ more)
    (h : findTag? skipped cs = none) : findTag? skipped (cs ++ more) = none := by
  rw [Option.eq_none_iff_forall_ne_some]
  intro f hf
  obtain ⟨i, -, hfirst⟩ := findTag?_eq_some hf
  have hb : Begins (cs.drop i ++ more.drop (i - cs.length)) := by
    rw [← List.drop_append]
    exact hfirst.begins
  exact findTag?_eq_none h i (begins_of_append (fun hgt => hm (List.mem_of_mem_drop hgt)) hb)

/-! ### Cursors -/

namespace Cursor

/-- The cursor in a text that goes on. -/
def extend (c : Cursor) (more : List Char) : Cursor := { c with rest := c.rest ++ more }

theorem last_of_next?_eq_none {c : Cursor} (h : c.next? = none) : c.last = c := by
  rw [last]
  split
  · rfl
  · simp_all

theorem last_of_next?_eq_some {c d : Cursor} {t : Tag} (h : c.next? = some (t, d)) :
    c.last = d.last := by
  rw [last]
  split
  · simp_all
  · simp_all

/-- No tag follows the last one. -/
theorem next?_last (c : Cursor) : c.last.next? = none := by
  fun_induction Cursor.last c with
  | case1 c h => exact h
  | case2 c t d h _ ih => exact ih

theorem next?_extend {c d : Cursor} {t : Tag} (h : c.next? = some (t, d)) (more : List Char) :
    (c.extend more).next? = some (t, d.extend more) := by
  obtain ⟨f, hf, hd⟩ := Option.map_eq_some_iff.mp h
  obtain ⟨rfl, rfl⟩ := Prod.mk.inj hd
  unfold next? extend
  rw [findTag?_append hf]
  rfl

/-- **Taking tags can be resumed.**  The tags of a text that goes on are the tags found so far, and
then those from the place after the last of them on. -/
theorem tags_extend (c : Cursor) (more : List Char) :
    (c.extend more).tags = c.tags ++ (c.last.extend more).tags := by
  fun_induction Cursor.tags c with
  | case1 c h => rw [last_of_next?_eq_none h, List.nil_append]
  | case2 c t d h _ ih =>
    rw [tags_of_next?_eq_some (next?_extend h more), ih, last_of_next?_eq_some h,
      List.cons_append]

/-- Text without a `>` adds no tag. -/
theorem tags_extend_of_notMem (c : Cursor) {more : List Char} (hm : '>' ∉ more) :
    (c.extend more).tags = c.tags := by
  have hnone : (c.last.extend more).next? = none := by
    have h := Option.map_eq_none_iff.mp (next?_last c)
    unfold next? extend
    rw [findTag?_append_eq_none hm h]
    rfl
  rw [tags_extend, tags_of_next?_eq_none hnone, List.append_nil]

end Cursor

/-! ### The tags of a line that goes on -/

/-- Text without a `>` before the comment makes no difference to the tags. -/
theorem tagsOfLine_eq_of_append (number : Nat) {line line' more : List Char} (hm : '>' ∉ more)
    (h : beforeComment line = beforeComment line' ++ more) :
    tagsOfLine number (String.ofList line) = tagsOfLine number (String.ofList line') := by
  unfold tagsOfLine Cursor.ofLine
  rw [String.toList_ofList, String.toList_ofList, h]
  exact Cursor.tags_extend_of_notMem ⟨number, 0, beforeComment line'⟩ hm

/-- A carriage return at the end of a line makes no difference to the tags. -/
theorem tagsOfLine_concat_return (number : Nat) (line : List Char) :
    tagsOfLine number (String.ofList (line ++ ['\r'])) = tagsOfLine number (String.ofList line) := by
  rcases beforeComment_concat line (c := '\r') (by decide) with h | h
  · exact tagsOfLine_eq_of_append number List.not_mem_nil (by rw [h, List.append_nil])
  · exact tagsOfLine_eq_of_append number (by decide) h

/-- Nor does a comment. -/
theorem tagsOfLine_append_mark (number : Nat) (line comment : List Char) :
    tagsOfLine number (String.ofList (line ++ '/' :: '/' :: comment)) =
      tagsOfLine number (String.ofList line) := by
  symm
  rcases beforeComment_append_mark line comment with h | h
  · exact tagsOfLine_eq_of_append number List.not_mem_nil (by rw [h, List.append_nil])
  · exact tagsOfLine_eq_of_append number (by decide) h

/-- **The tags of a line that goes on** begin with the tags found so far. -/
theorem prefix_tagsOfLine (number : Nat) {line line' : List Char} (h : GoesOn line line') :
    tagsOfLine number (String.ofList line) <+: tagsOfLine number (String.ofList line') := by
  rcases h with ⟨more, rfl⟩ | rfl
  · rcases beforeComment_append line more with ⟨more', hm⟩ | h
    · unfold tagsOfLine Cursor.ofLine
      rw [String.toList_ofList, String.toList_ofList, ← hm]
      have h := Cursor.tags_extend ⟨number, 0, beforeComment line⟩ more'
      exact ⟨_, h.symm⟩
    · rw [tagsOfLine_eq_of_append number (by decide) h]
  · rw [tagsOfLine_concat_return]

end TagNesting
