import TagNesting.Proofs.Nesting.Run
import TagNesting.Proofs.Tag.Numbering

/-!
# Names and policies play no part in the shape of a check

Two checks are alike if they have the same number of open tags, the same halt and the same count of
lines (`Checker.Alike`).  Tags of the same kind keep them so, whatever the names and the policies,
and so do lines whose tags have the same kinds (`checkLines_congr_kinds`).
-/

namespace TagNesting

/-- The kinds of the tags of a line, whatever its number. -/
def kindsOfLine (line : String) : List Kind := (tagsOfLine 0 line).map Tag.kind

theorem map_kind_tagsOfLine (number : Nat) (line : String) :
    (tagsOfLine number line).map Tag.kind = kindsOfLine line := by
  have h := tagsOfLine_add 0 number line
  rw [Nat.zero_add] at h
  rw [h, List.map_map]
  rfl

namespace Checker

/-- **Two checks of the same shape.** -/
structure Alike (c d : Checker) : Prop where
  halted : c.halted = d.halted
  height : c.stack.length = d.stack.length
  linesScanned : c.linesScanned = d.linesScanned

theorem alike_new (p q : Policy) : Alike (new p) (new q) := ⟨rfl, rfl, rfl⟩

namespace Alike

variable {c d : Checker}

theorem apply (h : Alike c d) {t u : Tag} (hk : t.kind = u.kind) :
    Alike (c.apply t) (d.apply u) := by
  have hh := h.halted
  have hlen := h.height
  rcases apply_cases c t with ⟨hc | ht, e⟩ | ⟨hc, ht, e⟩ | ⟨hc, ht, hs, e⟩ | ⟨o, s, hc, ht, hs, e⟩
  · rw [hc] at hh
    rw [e, apply_of_halted hh.symm]
    exact h
  · rw [hk] at ht
    rw [e, apply_selfClosing d ht]
    exact h
  · rw [hc] at hh
    rw [hk] at ht
    rw [e, apply_opening hh.symm ht]
    exact ⟨h.halted, by simp [hlen], h.linesScanned⟩
  · rw [hc] at hh
    rw [hk] at ht
    have hd : d.stack = [] := by
      rw [hs] at hlen
      exact List.length_eq_zero_iff.mp hlen.symm
    rw [e, apply_closing_nil hh.symm ht hd]
    exact ⟨rfl, hlen, h.linesScanned⟩
  · rw [hc] at hh
    rw [hk] at ht
    rw [hs, List.length_cons] at hlen
    obtain ⟨o', s', hd⟩ := List.exists_cons_of_length_eq_add_one hlen.symm
    rw [e, apply_closing_cons hh.symm ht hd]
    refine ⟨h.halted, ?_, h.linesScanned⟩
    rw [hd, List.length_cons] at hlen
    exact Nat.succ_injective hlen

theorem run (h : Alike c d) {ts us : List Tag} (hk : ts.map Tag.kind = us.map Tag.kind) :
    Alike (c.run ts) (d.run us) := by
  induction ts generalizing c d us with
  | nil =>
    obtain rfl : us = [] := List.map_eq_nil_iff.mp hk.symm
    exact h
  | cons t ts ih =>
    obtain ⟨u, us, rfl, hu, hus⟩ := List.map_eq_cons_iff.mp hk.symm
    exact ih (h.apply hu.symm) hus.symm

theorem feed (h : Alike c d) (number : Nat) {line line' : String}
    (hk : kindsOfLine line = kindsOfLine line') :
    Alike (c.feed number line) (d.feed number line') := by
  have hh := h.halted
  rcases hc : c.halted with _ | _
  · rw [hc] at hh
    have hrun : Alike (c.run (tagsOfLine number line)) (d.run (tagsOfLine number line')) := by
      refine h.run ?_
      rw [map_kind_tagsOfLine, map_kind_tagsOfLine, hk]
    rw [feed_of_not_halted hc, feed_of_not_halted hh.symm, h.linesScanned]
    exact ⟨hrun.halted, hrun.height, rfl⟩
  · rw [hc] at hh
    rw [feed_of_halted hc, feed_of_halted hh.symm]
    exact h

theorem feedAll (h : Alike c d) (number : Nat) {lines lines' : List String}
    (hk : lines.map kindsOfLine = lines'.map kindsOfLine) :
    Alike (c.feedAll number lines) (d.feedAll number lines') := by
  induction lines generalizing c d number lines' with
  | nil =>
    obtain rfl : lines' = [] := List.map_eq_nil_iff.mp hk.symm
    exact h
  | cons line lines ih =>
    obtain ⟨line', lines', rfl, hl, hls⟩ := List.map_eq_cons_iff.mp hk.symm
    exact ih (h.feed number hl.symm) (number + 1) hls.symm

theorem stack_eq_nil_iff (h : Alike c d) : c.stack = [] ↔ d.stack = [] := by
  rw [← List.length_eq_zero_iff, ← List.length_eq_zero_iff, h.height]

end Alike

end Checker

/-- **Checks of lines with the same kinds of tags have the same shape**, whatever their policies. -/
theorem checkLines_congr_kinds {lines lines' : List String} (p p' : Policy)
    (hk : lines.map kindsOfLine = lines'.map kindsOfLine) :
    (checkLines lines p).halted = (checkLines lines' p').halted ∧
    (checkLines lines p).linesScanned = (checkLines lines' p').linesScanned ∧
    (checkLines lines p).stackEmptied = (checkLines lines' p').stackEmptied := by
  have halike := (Checker.alike_new p p').feedAll 1 hk
  refine ⟨?_, ?_, ?_⟩
  · rw [checkLines_eq, checkLines_eq]
    exact halike.halted
  · rw [checkLines_eq, checkLines_eq]
    exact halike.linesScanned
  · have hclosing := (Checker.onlyClosing_new p).feedAll 1 lines
    have hclosing' := (Checker.onlyClosing_new p').feedAll 1 lines'
    rw [Bool.eq_iff_iff, checkLines_eq, checkLines_eq, hclosing.stackEmptied_finish,
      hclosing'.stackEmptied_finish, halike.halted, halike.stack_eq_nil_iff]

end TagNesting
