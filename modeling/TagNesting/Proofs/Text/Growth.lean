import Mathlib.Data.List.Infix
import TagNesting.Text.Comment
import TagNesting.Text.Lines

/-!
# Text that goes on

What happens to the lines of a text, and to what stands before a line's comment, when more text is
put after it.

* `splitLines_append`: all lines but the last stay as they are.  The last one goes on, or stays, or
  loses a carriage return that turns out to belong to its end (`GoesOn`).
* `beforeComment_append`: the text before the comment goes on, unless its last `/` turns out to
  begin the comment.
-/

namespace TagNesting.Text

/-! ### Comments -/

/-- The first two characters of a text begin a comment, or the first one stands before it. -/
theorem beforeComment_cons_cases (c : Char) (cs : List Char) :
    (∃ tail, c = '/' ∧ cs = '/' :: tail) ∨ beforeComment (c :: cs) = c :: beforeComment cs := by
  by_cases h : ∃ tail, c = '/' ∧ cs = '/' :: tail
  · exact Or.inl h
  · exact Or.inr (beforeComment_cons fun tail hc hcs => h ⟨tail, hc, hcs⟩)

/-- What stands before the comment of a line that goes on: the comment has begun, or more stands
before it, or a slash at the end of the line turns out to begin it. -/
theorem beforeComment_append_cases (line more : List Char) :
    beforeComment (line ++ more) = beforeComment line ∨
    beforeComment (line ++ more) = beforeComment line ++ beforeComment more ∨
    (∃ tail, more = '/' :: tail) ∧ beforeComment line = beforeComment (line ++ more) ++ ['/'] := by
  induction line with
  | nil => exact Or.inr (Or.inl rfl)
  | cons c cs ih =>
    rcases beforeComment_cons_cases c cs with ⟨tail, rfl, rfl⟩ | h
    · exact Or.inl rfl
    rcases beforeComment_cons_cases c (cs ++ more) with ⟨tail, rfl, hm⟩ | h'
    · rcases cs with _ | ⟨d, cs⟩
      · -- the slash at the end of the line meets one at the start of what follows
        refine Or.inr (Or.inr ⟨⟨tail, hm⟩, ?_⟩)
        rw [h, List.cons_append, hm, beforeComment_mark]
        rfl
      · obtain ⟨rfl, -⟩ := List.cons.inj hm
        rw [beforeComment_mark] at h
        exact absurd h.symm (List.cons_ne_nil _ _)
    · rw [h, List.cons_append, h']
      rcases ih with ih | ih | ⟨htail, ih⟩
      · exact Or.inl (by rw [ih])
      · exact Or.inr (Or.inl (by rw [ih]; rfl))
      · exact Or.inr (Or.inr ⟨htail, by rw [ih]; rfl⟩)

/-- **The text before the comment of a line that goes on.** -/
theorem beforeComment_append (line more : List Char) :
    beforeComment line <+: beforeComment (line ++ more) ∨
      beforeComment line = beforeComment (line ++ more) ++ ['/'] := by
  rcases beforeComment_append_cases line more with h | h | ⟨-, h⟩
  · exact Or.inl (by rw [h])
  · exact Or.inl ⟨_, h.symm⟩
  · exact Or.inr h

/-- A last character that is no slash is part of the comment, or stands before it. -/
theorem beforeComment_concat (line : List Char) {c : Char} (hc : c ≠ '/') :
    beforeComment (line ++ [c]) = beforeComment line ∨
      beforeComment (line ++ [c]) = beforeComment line ++ [c] := by
  have hone : beforeComment [c] = [c] := by
    rw [beforeComment_cons fun tail h _ => hc h]
    rfl
  rcases beforeComment_append_cases line [c] with h | h | ⟨⟨tail, ht⟩, -⟩
  · exact Or.inl h
  · exact Or.inr (by rw [h, hone])
  · exact absurd (List.cons.inj ht).1 hc

/-- A comment put after a line hides nothing of it but a slash at its end. -/
theorem beforeComment_append_mark (line more : List Char) :
    beforeComment line = beforeComment (line ++ '/' :: '/' :: more) ∨
      beforeComment line = beforeComment (line ++ '/' :: '/' :: more) ++ ['/'] := by
  rcases beforeComment_append_cases line ('/' :: '/' :: more) with h | h | ⟨-, h⟩
  · exact Or.inl h.symm
  · rw [beforeComment_mark, List.append_nil] at h
    exact Or.inl h.symm
  · exact Or.inr h

/-! ### Lines -/

/-- What becomes of the last line of a text that goes on: more follows on it, or it loses a carriage
return that belongs to its end. -/
def GoesOn (line line' : List Char) : Prop := line <+: line' ∨ line = line' ++ ['\r']

namespace Splitter

theorem step_lf (s : Splitter) : s.step '\n' = ⟨lineOf s.current :: s.ended, []⟩ := rfl

theorem step_of_ne (s : Splitter) {c : Char} (hc : c ≠ '\n') :
    s.step c = ⟨s.ended, c :: s.current⟩ := by
  unfold step; rw [if_neg hc]

/-- Lines that have ended stay as they are. -/
theorem foldl_step_ended (ended : List (List Char)) (current : List Char) (text : List Char) :
    (text.foldl step ⟨ended, current⟩).lines =
      ended.reverse ++ (text.foldl step ⟨[], current⟩).lines := by
  have main : ∀ s : Splitter, text.foldl step ⟨s.ended ++ ended, s.current⟩ =
      ⟨(text.foldl step s).ended ++ ended, (text.foldl step s).current⟩ := by
    induction text with
    | nil => exact fun s => rfl
    | cons c text ih =>
      intro s
      have hstep : step ⟨s.ended ++ ended, s.current⟩ c =
          ⟨(step s c).ended ++ ended, (step s c).current⟩ := by
        unfold step
        split <;> rfl
      rw [List.foldl_cons, hstep, ih, List.foldl_cons]
  have h := main ⟨[], current⟩
  rw [List.nil_append] at h
  rw [h]
  unfold lines
  split
  · rw [List.reverse_append]
  · simp

theorem lineOf_cases (current : List Char) :
    lineOf current = current.reverse ∨ current.reverse = lineOf current ++ ['\r'] := by
  unfold lineOf
  split
  · exact Or.inr (by simp)
  · exact Or.inl rfl

/-- The line that has begun goes on. -/
theorem lines_of_begun {current : List Char} (h : current ≠ []) (text : List Char) :
    ∃ line more, (text.foldl step ⟨[], current⟩).lines = line :: more ∧
      GoesOn current.reverse line := by
  induction text generalizing current with
  | nil =>
    refine ⟨current.reverse, [], ?_, Or.inl List.prefix_rfl⟩
    simp [lines, h]
  | cons c text ih =>
    rw [List.foldl_cons]
    by_cases hc : c = '\n'
    · refine ⟨lineOf current, (text.foldl step ⟨[], []⟩).lines, ?_, ?_⟩
      · rw [hc, step_lf, foldl_step_ended]
        rfl
      · rcases lineOf_cases current with h | h
        · exact Or.inl (by rw [h])
        · exact Or.inr h
    · rw [step_of_ne _ hc]
      obtain ⟨line, more, hl, hg⟩ := ih (List.cons_ne_nil c current)
      refine ⟨line, more, hl, Or.inl ?_⟩
      rw [List.reverse_cons] at hg
      rcases hg with hg | hg
      · exact (List.prefix_append _ _).trans hg
      · rw [(List.append_inj' hg rfl).1]

end Splitter

/-- **The lines of a text that goes on**: all stay, or all but the last, which goes on. -/
theorem splitLines_append (text more : List Char) :
    splitLines text <+: splitLines (text ++ more) ∨
    ∃ before line line' after, splitLines text = before ++ [line] ∧
      splitLines (text ++ more) = before ++ line' :: after ∧ GoesOn line line' := by
  unfold splitLines
  rw [List.foldl_append]
  rcases text.foldl Splitter.step Splitter.empty with ⟨ended, current⟩
  rw [Splitter.foldl_step_ended]
  by_cases h : current = []
  · left
    simp [Splitter.lines, h]
  · right
    obtain ⟨line, after, hl, hg⟩ := Splitter.lines_of_begun h more
    refine ⟨ended.reverse, current.reverse, line, after, ?_, by rw [hl], hg⟩
    simp [Splitter.lines, h]

end TagNesting.Text
