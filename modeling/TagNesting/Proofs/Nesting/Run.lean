import Mathlib.Data.List.Infix
import TagNesting.Nesting.Check

/-!
# Runs of the checker

A run applies the tags of a list one after the other.  Everything that one step can do is said once
(`Checker.apply_cases`); what every step keeps, every run keeps.  The caller is told to stop iff the
run has halted (`Checker.signalAll_eq`).

Feeding lines is a run over the tags of all lines, in order, up to the count of lines
(`Checker.feedAll_eq`): the early end of the check at a halt loses nothing, since a halted checker
ignores all further tags.  So the diagnostics of a check and its halt are those of one run
(`checkLines_diagnostics`, `checkLines_halted`).
-/

namespace TagNesting

open TagNesting.Text

/-- The open tag that an opening tag leaves on the stack. -/
def OpenTag.ofTag (t : Tag) : OpenTag := ⟨t.name, t.line⟩

/-- What the closing of the open tag `o` by the tag `t` adds to the diagnostics. -/
def Policy.complaint (p : Policy) (o : OpenTag) (t : Tag) : List Diagnostic :=
  if o.name ≠ t.name ∧ p.reports o.name t.name = true then
    [⟨t.line, .mismatch o.name o.line t.name⟩]
  else []

theorem Report.stackEmptied_iff (r : Report) :
    r.stackEmptied = true ↔ r.halted = false ∧ r.unclosed = [] := by
  simp [Report.stackEmptied, Report.unclosed, List.filter_eq_nil_iff]

namespace Checker

/-! ### One step -/

theorem apply_selfClosing (c : Checker) {t : Tag} (ht : t.kind = .selfClosing) : c.apply t = c := by
  unfold apply
  rw [ht]
  split <;> rfl

theorem apply_opening {c : Checker} {t : Tag} (hc : c.halted = false) (ht : t.kind = .opening) :
    c.apply t = { c with stack := OpenTag.ofTag t :: c.stack } := by
  unfold apply
  rw [hc, ht]
  rfl

theorem apply_closing_nil {c : Checker} {t : Tag} (hc : c.halted = false) (ht : t.kind = .closing)
    (hs : c.stack = []) :
    c.apply t = { c with
      diagnostics := c.diagnostics.push ⟨t.line, .unexpectedClosing t.name⟩, halted := true } := by
  unfold apply close report
  rw [hc, ht, hs]
  rfl

theorem apply_closing_cons {c : Checker} {t : Tag} {o : OpenTag} {s : List OpenTag}
    (hc : c.halted = false) (ht : t.kind = .closing) (hs : c.stack = o :: s) :
    c.apply t = { c with stack := s, diagnostics := c.diagnostics ++ c.policy.complaint o t } := by
  unfold apply close report Policy.complaint
  rw [hc, ht, hs]
  by_cases hn : o.name = t.name
  · simp [hn]
  · by_cases hr : c.policy.reports o.name t.name = true
    · simp [hn, hr]
    · simp [hn, hr]

/-- **All that a step can do.**  It changes nothing, or it opens a level, or it halts, or it closes
the innermost level and may complain about that. -/
theorem apply_cases (c : Checker) (t : Tag) :
    ((c.halted = true ∨ t.kind = .selfClosing) ∧ c.apply t = c) ∨
    (c.halted = false ∧ t.kind = .opening ∧
      c.apply t = { c with stack := OpenTag.ofTag t :: c.stack }) ∨
    (c.halted = false ∧ t.kind = .closing ∧ c.stack = [] ∧
      c.apply t = { c with
        diagnostics := c.diagnostics.push ⟨t.line, .unexpectedClosing t.name⟩, halted := true }) ∨
    ∃ o s, c.halted = false ∧ t.kind = .closing ∧ c.stack = o :: s ∧
      c.apply t =
        { c with stack := s, diagnostics := c.diagnostics ++ c.policy.complaint o t } := by
  by_cases hc : c.halted = true
  · exact Or.inl ⟨Or.inl hc, apply_of_halted hc t⟩
  rw [Bool.not_eq_true] at hc
  rcases ht : t.kind with _ | _ | _
  · exact Or.inr (Or.inl ⟨hc, rfl, apply_opening hc ht⟩)
  · by_cases hs : c.stack = []
    · exact Or.inr (Or.inr (Or.inl ⟨hc, rfl, hs, apply_closing_nil hc ht hs⟩))
    · obtain ⟨o, s, hs⟩ := List.exists_cons_of_ne_nil hs
      exact Or.inr (Or.inr (Or.inr ⟨o, s, hc, rfl, hs, apply_closing_cons hc ht hs⟩))
  · exact Or.inl ⟨Or.inr rfl, apply_selfClosing c ht⟩

/-! ### Runs -/

/-- **A run**: the tags of a list are applied one after the other. -/
def run (c : Checker) (ts : List Tag) : Checker := ts.foldl apply c

@[simp] theorem run_nil (c : Checker) : c.run [] = c := rfl

@[simp] theorem run_cons (c : Checker) (t : Tag) (ts : List Tag) :
    c.run (t :: ts) = (c.apply t).run ts := rfl

theorem run_append (c : Checker) (ts us : List Tag) : c.run (ts ++ us) = (c.run ts).run us :=
  List.foldl_append

theorem run_concat (c : Checker) (ts : List Tag) (t : Tag) :
    c.run (ts ++ [t]) = (c.run ts).apply t := by
  rw [run_append, run_cons, run_nil]

theorem run_of_halted {c : Checker} (h : c.halted = true) (ts : List Tag) : c.run ts = c :=
  foldl_apply_of_halted h ts

@[simp] theorem run_policy (c : Checker) (ts : List Tag) : (c.run ts).policy = c.policy := by
  induction ts generalizing c with
  | nil => rfl
  | cons t ts ih => rw [run_cons, ih, apply_policy]

@[simp] theorem run_linesScanned (c : Checker) (ts : List Tag) :
    (c.run ts).linesScanned = c.linesScanned := by
  induction ts generalizing c with
  | nil => rfl
  | cons t ts ih => rw [run_cons, ih, apply_linesScanned]

/-- Once halted, a run stays so. -/
theorem run_eq_of_halted {c : Checker} {ts us : List Tag} (hp : ts <+: us)
    (h : (c.run ts).halted = true) : c.run us = c.run ts := by
  obtain ⟨vs, rfl⟩ := hp
  rw [run_append, run_of_halted h]

/-- Whatever leaves a halted checker as it is has not begun with one if it ends without a halt. -/
theorem not_halted_of_stays {c d : Checker} (h : c.halted = true → d = c)
    (hd : d.halted = false) : c.halted = false := by
  by_contra hc
  rw [Bool.not_eq_false] at hc
  rw [h hc, hc] at hd
  exact Bool.noConfusion hd

theorem not_halted_of_run {c : Checker} {ts : List Tag} (h : (c.run ts).halted = false) :
    c.halted = false :=
  not_halted_of_stays (fun hc => run_of_halted hc ts) h

theorem diagnostics_prefix_apply (c : Checker) (t : Tag) :
    c.diagnostics.toList <+: (c.apply t).diagnostics.toList := by
  rcases apply_cases c t with ⟨-, h⟩ | ⟨-, -, h⟩ | ⟨-, -, -, h⟩ | ⟨o, s, -, -, -, h⟩
  · rw [h]
  · rw [h]
  · rw [h]; simp
  · rw [h]; simp

/-- Diagnostics are only ever appended. -/
theorem diagnostics_prefix_run (c : Checker) (ts : List Tag) :
    c.diagnostics.toList <+: (c.run ts).diagnostics.toList := by
  induction ts generalizing c with
  | nil => exact List.prefix_rfl
  | cons t ts ih => exact (diagnostics_prefix_apply c t).trans (ih (c.apply t))

/-- A run that starts and ends without a halt or a diagnostic has none before its last tag. -/
theorem silent_of_silent_append {c : Checker} {ts us : List Tag}
    (hh : (c.run (ts ++ us)).halted = false) (hd : (c.run (ts ++ us)).diagnostics.toList = []) :
    (c.run ts).halted = false ∧ (c.run ts).diagnostics.toList = [] := by
  rw [run_append] at hh hd
  constructor
  · exact not_halted_of_run hh
  · have h := diagnostics_prefix_run (c.run ts) us
    rw [hd] at h
    exact List.prefix_nil.mp h

/-! ### No diagnostic of a run is about a tag left open -/

/-- The diagnostics so far are faults of closing tags. -/
def OnlyClosing (c : Checker) : Prop := ∀ d ∈ c.diagnostics.toList, d.isUnclosed = false

theorem onlyClosing_new (p : Policy) : OnlyClosing (new p) := by
  intro d hd
  exact absurd hd (by simp [new])

theorem isUnclosed_of_mem_complaint {p : Policy} {o : OpenTag} {t : Tag} {d : Diagnostic}
    (hd : d ∈ p.complaint o t) : d.isUnclosed = false := by
  unfold Policy.complaint at hd
  split at hd
  · rw [List.mem_singleton.mp hd]; rfl
  · exact absurd hd (by simp)

theorem OnlyClosing.apply {c : Checker} (h : c.OnlyClosing) (t : Tag) : (c.apply t).OnlyClosing := by
  unfold OnlyClosing at h ⊢
  rcases apply_cases c t with ⟨-, e⟩ | ⟨-, -, e⟩ | ⟨-, -, -, e⟩ | ⟨o, s, -, -, -, e⟩
  · rw [e]; exact h
  · rw [e]; exact h
  · rw [e]
    intro d hd
    rw [Array.toList_push, List.mem_append, List.mem_singleton] at hd
    rcases hd with hd | rfl
    · exact h d hd
    · rfl
  · rw [e]
    intro d hd
    rw [Array.toList_appendList, List.mem_append] at hd
    rcases hd with hd | hd
    · exact h d hd
    · exact isUnclosed_of_mem_complaint hd

theorem OnlyClosing.run {c : Checker} (h : c.OnlyClosing) (ts : List Tag) :
    (c.run ts).OnlyClosing := by
  induction ts generalizing c with
  | nil => exact h
  | cons t ts ih => exact ih (h.apply t)

/-- A test that no tag left open passes sees only the diagnostics of the run. -/
theorem filter_finish (c : Checker) {q : Diagnostic → Bool}
    (hq : ∀ o, q (unclosedOf o) = false) :
    c.finish.diagnostics.filter q = c.diagnostics.toList.filter q := by
  have hnone : (c.openTags.map unclosedOf).filter q = [] := by
    rw [List.filter_eq_nil_iff]
    intro d hd
    obtain ⟨o, -, rfl⟩ := List.mem_map.mp hd
    rw [hq]
    exact Bool.false_ne_true
  unfold finish
  dsimp only
  rw [List.filter_append]
  split
  · rw [List.filter_nil, List.append_nil]
  · rw [hnone, List.append_nil]

/-- The faults of closing tags that a report holds are the diagnostics of the run. -/
theorem OnlyClosing.closingFaults_finish {c : Checker} (h : c.OnlyClosing) :
    c.finish.closingFaults = c.diagnostics.toList := by
  unfold Report.closingFaults
  rw [c.filter_finish fun _ => rfl, List.filter_eq_self]
  intro d hd
  rw [h d hd]
  rfl

/-- The tags left open that a report holds are those on the stack, unless the run has halted. -/
theorem OnlyClosing.unclosed_finish {c : Checker} (h : c.OnlyClosing) :
    c.finish.unclosed = if c.halted then [] else c.openTags.map unclosedOf := by
  have hnone : c.diagnostics.toList.filter (·.isUnclosed) = [] := by
    rw [List.filter_eq_nil_iff]
    intro d hd
    rw [h d hd]
    exact Bool.false_ne_true
  have hall : (c.openTags.map unclosedOf).filter (·.isUnclosed) =
      c.openTags.map unclosedOf := by
    rw [List.filter_eq_self]
    intro d hd
    obtain ⟨o, -, rfl⟩ := List.mem_map.mp hd
    rfl
  unfold Report.unclosed finish
  dsimp only
  rw [List.filter_append, hnone, List.nil_append]
  split
  · rfl
  · exact hall

/-- The faults of closing tags stand before the tags left open. -/
theorem OnlyClosing.diagnostics_finish {c : Checker} (h : c.OnlyClosing) :
    c.finish.diagnostics = c.finish.closingFaults ++ c.finish.unclosed := by
  rw [h.closingFaults_finish, h.unclosed_finish]
  rfl

/-- A tag left open is one on the stack. -/
theorem OnlyClosing.exists_of_mem_unclosed {c : Checker} (h : c.OnlyClosing) {d : Diagnostic}
    (hd : d ∈ c.finish.unclosed) : ∃ o ∈ c.stack, d = unclosedOf o := by
  rw [h.unclosed_finish] at hd
  split at hd
  · exact absurd hd List.not_mem_nil
  · obtain ⟨o, ho, rfl⟩ := List.mem_map.mp hd
    exact ⟨o, List.mem_reverse.mp ho, rfl⟩

/-- A report says that nothing is left open iff the run has not halted and its stack is empty. -/
theorem OnlyClosing.stackEmptied_finish {c : Checker} (h : c.OnlyClosing) :
    c.finish.stackEmptied = true ↔ c.halted = false ∧ c.stack = [] := by
  rw [Report.stackEmptied_iff, h.unclosed_finish]
  unfold finish openTags
  rcases c.halted with _ | _
  · simp
  · simp

/-! ### What the caller is told -/

theorem signal_eq (c : Checker) (t : Tag) :
    c.signal t = if (c.apply t).halted then .halt else .goOn := by
  unfold signal
  rcases apply_cases c t with ⟨hc | ht, h⟩ | ⟨hc, ht, h⟩ | ⟨hc, ht, hs, h⟩ | ⟨o, s, hc, ht, hs, h⟩
  · rw [h, hc]; rfl
  · rw [h, ht]
  · rw [h, hc, ht]
  · rw [h, hc, ht, hs]; rfl
  · rw [h, hc, ht, hs]

/-- **The caller is told to stop iff the tags halt the checker.** -/
theorem signalAll_eq {c : Checker} (hc : c.halted = false) (ts : List Tag) :
    c.signalAll ts = if (c.run ts).halted then .halt else .goOn := by
  induction ts generalizing c with
  | nil => rw [run_nil, hc]; rfl
  | cons t ts ih =>
    rw [signalAll, signal_eq, run_cons]
    rcases ht : (c.apply t).halted with _ | _
    · exact ih ht
    · rw [run_of_halted ht, ht]; rfl

/-! ### The count of lines plays no part in a step -/

/-- The checker with another count of lines. -/
def withLines (c : Checker) (k : Nat) : Checker := { c with linesScanned := k }

theorem apply_withLines (c : Checker) (k : Nat) (t : Tag) :
    (c.withLines k).apply t = (c.apply t).withLines k := by
  rcases apply_cases c t with ⟨hc | ht, h⟩ | ⟨hc, ht, h⟩ | ⟨hc, ht, hs, h⟩ | ⟨o, s, hc, ht, hs, h⟩
  · rw [h]; exact apply_of_halted (c := c.withLines k) hc t
  · rw [h]; exact apply_selfClosing _ ht
  · rw [h]; exact apply_opening hc ht
  · rw [h]; exact apply_closing_nil hc ht hs
  · rw [h]; exact apply_closing_cons hc ht hs

theorem run_withLines (c : Checker) (k : Nat) (ts : List Tag) :
    (c.withLines k).run ts = (c.run ts).withLines k := by
  induction ts generalizing c with
  | nil => rfl
  | cons t ts ih => rw [run_cons, apply_withLines, ih, run_cons]

/-! ### Feeding lines -/

/-- Feeds a line to the checker alone: the line is counted and all of its tags are applied, unless
the checker has halted. -/
def feed (c : Checker) (number : Nat) (line : String) : Checker :=
  if c.halted then c else (c.withLines (c.linesScanned + 1)).run (tagsOfLine number line)

/-- Feeds all lines to the checker alone; the first has the given number. -/
def feedAll (c : Checker) (number : Nat) : List String → Checker
  | [] => c
  | line :: lines => (c.feed number line).feedAll (number + 1) lines

theorem feed_of_halted {c : Checker} (h : c.halted = true) (number : Nat) (line : String) :
    c.feed number line = c := by
  unfold feed; rw [if_pos h]

theorem feed_of_not_halted {c : Checker} (h : c.halted = false) (number : Nat) (line : String) :
    c.feed number line = (c.run (tagsOfLine number line)).withLines (c.linesScanned + 1) := by
  unfold feed; rw [if_neg (by rw [h]; exact Bool.false_ne_true), run_withLines]

theorem feed_policy (c : Checker) (number : Nat) (line : String) :
    (c.feed number line).policy = c.policy := by
  rcases hc : c.halted with _ | _
  · rw [feed_of_not_halted hc]
    exact run_policy c _
  · rw [feed_of_halted hc]

theorem feedAll_policy (c : Checker) (number : Nat) (lines : List String) :
    (c.feedAll number lines).policy = c.policy := by
  induction lines generalizing c number with
  | nil => rfl
  | cons line lines ih => rw [feedAll, ih, feed_policy]

theorem feedAll_of_halted {c : Checker} (h : c.halted = true) (number : Nat)
    (lines : List String) : c.feedAll number lines = c := by
  induction lines generalizing number with
  | nil => rfl
  | cons line lines ih => rw [feedAll, feed_of_halted h, ih]

theorem not_halted_of_feed {c : Checker} {number : Nat} {line : String}
    (h : (c.feed number line).halted = false) : c.halted = false :=
  not_halted_of_stays (fun hc => feed_of_halted hc number line) h

theorem not_halted_of_feedAll {c : Checker} {number : Nat} {lines : List String}
    (h : (c.feedAll number lines).halted = false) : c.halted = false :=
  not_halted_of_stays (fun hc => feedAll_of_halted hc number lines) h

/-- Without a halt every line is counted. -/
theorem linesScanned_feedAll {c : Checker} {number : Nat} {lines : List String}
    (h : (c.feedAll number lines).halted = false) :
    (c.feedAll number lines).linesScanned = c.linesScanned + lines.length := by
  induction lines generalizing c number with
  | nil => rfl
  | cons line lines ih =>
    rw [feedAll] at h ⊢
    have hc := not_halted_of_feed (not_halted_of_feedAll h)
    have hone : (c.feed number line).linesScanned = c.linesScanned + 1 := by
      rw [feed_of_not_halted hc]
      rfl
    rw [ih h, hone, List.length_cons]
    omega

theorem feedAll_append (c : Checker) (number : Nat) (lines more : List String) :
    c.feedAll number (lines ++ more) =
      (c.feedAll number lines).feedAll (number + lines.length) more := by
  induction lines generalizing c number with
  | nil => rfl
  | cons line lines ih =>
    rw [List.cons_append, feedAll, feedAll, ih, List.length_cons, Nat.add_assoc, Nat.add_comm 1]

end Checker

theorem Progress.feed_checker (p : Progress) (number : Nat) (line : String) :
    (p.feed number line).checker = p.checker.feed number line := by
  unfold Progress.feed Checker.feed
  split
  · rfl
  · exact Progress.drain_checker _ _

theorem Progress.feedSignal_eq (p : Progress) (number : Nat) (line : String) :
    p.feedSignal number line = if (p.feed number line).checker.halted then .halt else .goOn := by
  rw [Progress.feed_checker]
  unfold Progress.feedSignal
  split
  · next h => rw [Checker.feed_of_halted h, h]; rfl
  · next h =>
    rw [Bool.not_eq_true] at h
    rw [Checker.feed_of_not_halted h, Checker.signalAll_eq h]
    rfl

theorem Progress.feedAll_checker (p : Progress) (number : Nat) (lines : List String) :
    (p.feedAll number lines).checker = p.checker.feedAll number lines := by
  induction lines generalizing p number with
  | nil => rfl
  | cons line lines ih =>
    unfold Progress.feedAll Checker.feedAll
    rw [← Progress.feed_checker]
    dsimp only
    split
    · next h => exact (Checker.feedAll_of_halted h _ _).symm
    · exact ih _ _

theorem checkLines_eq (lines : List String) (p : Policy) :
    checkLines lines p = ((Checker.new p).feedAll 1 lines).finish := by
  unfold checkLines
  rw [Progress.feedAll_checker]
  rfl

/-! ### A check is a run over the tags of all lines -/

/-- **The tags of numbered lines**, in order; the first line has the given number. -/
def tagsFrom (number : Nat) (lines : List String) : List Tag :=
  (lines.zipIdx number).flatMap fun l => tagsOfLine l.2 l.1

/-- The tags of a document. -/
def tagsOfDocument (document : String) : List Tag := tagsFrom 1 (linesOf document)

@[simp] theorem tagsFrom_cons (number : Nat) (line : String) (lines : List String) :
    tagsFrom number (line :: lines) = tagsOfLine number line ++ tagsFrom (number + 1) lines := by
  simp [tagsFrom]

/-- **Feeding lines is a run**, up to the count of lines. -/
theorem Checker.feedAll_eq (c : Checker) (number : Nat) (lines : List String) :
    c.feedAll number lines =
      (c.run (tagsFrom number lines)).withLines (c.feedAll number lines).linesScanned := by
  induction lines generalizing c number with
  | nil => rfl
  | cons line lines ih =>
    by_cases hc : c.halted = true
    · rw [feedAll_of_halted hc, run_of_halted hc]
      rfl
    · rw [Bool.not_eq_true] at hc
      rw [feedAll, ih, tagsFrom_cons, run_append, feed_of_not_halted hc, run_withLines]
      rfl

theorem Checker.OnlyClosing.feedAll {c : Checker} (h : c.OnlyClosing) (number : Nat)
    (lines : List String) : (c.feedAll number lines).OnlyClosing := by
  rw [Checker.feedAll_eq]
  exact h.run _

theorem checkLines_halted (lines : List String) (p : Policy) :
    (checkLines lines p).halted = ((Checker.new p).run (tagsFrom 1 lines)).halted := by
  rw [checkLines_eq, Checker.feedAll_eq]
  rfl

theorem checkLines_diagnostics (lines : List String) (p : Policy) :
    (checkLines lines p).diagnostics =
      ((Checker.new p).run (tagsFrom 1 lines)).finish.diagnostics := by
  rw [checkLines_eq, Checker.feedAll_eq]
  rfl

end TagNesting
