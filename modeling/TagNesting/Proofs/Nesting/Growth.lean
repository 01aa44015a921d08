import TagNesting.Proofs.Nesting.Run
import TagNesting.Proofs.Tag.Resume

/-!
# Checking a document that goes on

A check of a document that goes on goes through the state that the check of the document ends in, or
through one with the same tags read (`Checker.Precedes`): text put after a document takes back no
fault of a closing tag, no line that was read, and no halt.
-/

namespace TagNesting

open TagNesting.Text

namespace Checker

/-- **A state on the way to another**: the second has the diagnostics of the first and maybe more,
has read at least as many lines, and is the same if the first has halted. -/
structure Precedes (c d : Checker) : Prop where
  diagnostics : c.diagnostics.toList <+: d.diagnostics.toList
  linesScanned : c.linesScanned ≤ d.linesScanned
  halted : c.halted = true → d = c

namespace Precedes

variable {b c d : Checker}

theorem refl (c : Checker) : c.Precedes c := ⟨List.prefix_rfl, le_rfl, fun _ => rfl⟩

theorem trans (h : b.Precedes c) (h' : c.Precedes d) : b.Precedes d where
  diagnostics := h.diagnostics.trans h'.diagnostics
  linesScanned := h.linesScanned.trans h'.linesScanned
  halted := by
    intro hb
    obtain rfl := h.halted hb
    exact h'.halted hb

theorem run (c : Checker) (ts : List Tag) : c.Precedes (c.run ts) where
  diagnostics := diagnostics_prefix_run c ts
  linesScanned := by rw [run_linesScanned]
  halted := fun h => run_of_halted h ts

theorem withLines (h : c.Precedes d) (k : Nat) : (c.withLines k).Precedes (d.withLines k) where
  diagnostics := h.diagnostics
  linesScanned := le_rfl
  halted := by
    intro hc
    rw [h.halted hc]

theorem feed (c : Checker) (number : Nat) (line : String) : c.Precedes (c.feed number line) := by
  by_cases hc : c.halted = true
  · rw [feed_of_halted hc]; exact refl c
  · rw [Bool.not_eq_true] at hc
    rw [feed_of_not_halted hc]
    refine ⟨diagnostics_prefix_run c _, Nat.le_succ _, fun h => ?_⟩
    rw [hc] at h
    exact Bool.noConfusion h

theorem feedAll (c : Checker) (number : Nat) (lines : List String) :
    c.Precedes (c.feedAll number lines) := by
  induction lines generalizing c number with
  | nil => exact refl c
  | cons line lines ih => exact (feed c number line).trans (ih _ _)

/-- A line is on the way to the line that goes on. -/
theorem feed_of_goesOn (c : Checker) {number : Nat} {line line' : String}
    (h : tagsOfLine number line <+: tagsOfLine number line') :
    (c.feed number line).Precedes (c.feed number line') := by
  by_cases hc : c.halted = true
  · rw [feed_of_halted hc, feed_of_halted hc]; exact refl c
  · rw [Bool.not_eq_true] at hc
    obtain ⟨more, hm⟩ := h
    rw [feed_of_not_halted hc, feed_of_not_halted hc, ← hm, run_append]
    exact (run _ more).withLines _

/-- What one state on the way to another says about the reports. -/
theorem finish (h : c.Precedes d) (hc : c.OnlyClosing) (hd : d.OnlyClosing) :
    c.finish.closingFaults <+: d.finish.closingFaults ∧
      c.finish.linesScanned ≤ d.finish.linesScanned ∧
      (c.finish.halted = true → d.finish = c.finish) := by
  refine ⟨?_, h.linesScanned, fun hh => ?_⟩
  · rw [hc.closingFaults_finish, hd.closingFaults_finish]
    exact h.diagnostics
  · rw [h.halted hh]

end Precedes

end Checker

/-- The lines of a document that goes on lead through the state that its own lines lead to. -/
theorem precedes_append (c : Checker) (document more : String) :
    (c.feedAll 1 (linesOf document)).Precedes (c.feedAll 1 (linesOf (document ++ more))) := by
  unfold linesOf
  rw [String.toList_append]
  rcases splitLines_append document.toList more.toList with ⟨after, h⟩ |
      ⟨before, line, line', after, h, h', hgoes⟩
  · rw [← h, List.map_append, Checker.feedAll_append]
    exact .feedAll _ _ _
  · rw [h, h', List.map_append, List.map_append, Checker.feedAll_append, Checker.feedAll_append,
      List.map_cons, List.map_cons, List.map_nil]
    exact (Checker.Precedes.feed_of_goesOn _ (prefix_tagsOfLine _ hgoes)).trans (.feedAll _ _ _)

/-- **Text put after a document rewrites nothing**, wherever the document ends: the faults of closing
tags reported for the document are the first ones reported for the longer one, no fewer lines are
read, and a check that has halted gives the same report. -/
theorem checkDocument_append (document more : String) (p : Policy) :
    (checkDocument document p).closingFaults <+: (checkDocument (document ++ more) p).closingFaults ∧
    (checkDocument document p).linesScanned ≤ (checkDocument (document ++ more) p).linesScanned ∧
    ((checkDocument document p).halted = true →
      checkDocument (document ++ more) p = checkDocument document p) := by
  have hnew := Checker.onlyClosing_new p
  unfold checkDocument
  rw [checkLines_eq, checkLines_eq]
  exact (precedes_append (Checker.new p) document more).finish (hnew.feedAll _ _)
    (hnew.feedAll _ _)

/-- The halt stands although the text after it completes a line and starts a comment. -/
theorem checkDocument_append_of_halt :
    (checkDocument "<a></b>\r\n</i>/" .all).halted = true ∧
      checkDocument ("<a></b>\r\n</i>/" ++ "/</u>\n<u>") .all =
        checkDocument "<a></b>\r\n</i>/" .all := by
  have h : (checkDocument "<a></b>\r\n</i>/" .all).halted = true := by decide +kernel
  exact ⟨h, (checkDocument_append _ _ _).2.2 h⟩

end TagNesting
