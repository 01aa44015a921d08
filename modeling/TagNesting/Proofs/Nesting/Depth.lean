import Mathlib.Algebra.BigOperators.Group.List.Basic
import Mathlib.Algebra.Ring.Int.Defs
import Mathlib.Data.List.Infix
import TagNesting.Proofs.Nesting.Kinds
import TagNesting.Proofs.Report.Ending

/-!
# Depth: a check by sums

Read every opening tag as `+1` and every closing tag as `-1`.  As long as a check has not halted, the
number of its open tags is the sum of the tags so far (`Checker.length_stack_run`); so it halts at the
first tag at which the sum becomes negative (`Checker.HaltsAt.depth_neg`), and that tag stands on the
last line that was counted (`Checker.exists_haltsAt_of_feedAll`).
-/

namespace TagNesting

/-! ### Sums -/

/-- What a tag of a kind adds to the depth. -/
def Kind.weight : Kind → Int
  | .opening => 1
  | .closing => -1
  | .selfClosing => 0

/-- **The depth after a list of tags.** -/
def depth (ts : List Tag) : Int := (ts.map fun t => t.kind.weight).sum

@[simp] theorem depth_nil : depth [] = 0 := rfl

@[simp] theorem depth_cons (t : Tag) (ts : List Tag) :
    depth (t :: ts) = t.kind.weight + depth ts := by
  simp [depth]

@[simp] theorem depth_append (ts us : List Tag) : depth (ts ++ us) = depth ts + depth us := by
  simp [depth]

/-- The opening and closing tags of lines, in order. -/
def levelStream (lines : List String) : List Tag :=
  (tagsFrom 1 lines).filter fun t => t.kind ≠ .selfClosing

theorem depth_filter (ts : List Tag) :
    depth (ts.filter fun t => t.kind ≠ .selfClosing) = depth ts := by
  induction ts with
  | nil => rfl
  | cons t ts ih =>
    by_cases ht : t.kind = .selfClosing
    · rw [List.filter_cons_of_neg (by simpa using ht), ih, depth_cons, ht, Kind.weight, zero_add]
    · rw [List.filter_cons_of_pos (by simpa using ht), depth_cons, depth_cons, ih]

/-- A closing tag where nothing is open. -/
def Diagnostic.isUnexpected (d : Diagnostic) : Bool :=
  match d.fault with
  | .unexpectedClosing _ => true
  | _ => false

theorem isUnexpected_of_mem_complaint {p : Policy} {o : OpenTag} {t : Tag} {d : Diagnostic}
    (hd : d ∈ p.complaint o t) : d.isUnexpected = false := by
  unfold Policy.complaint at hd
  split at hd
  · rw [List.mem_singleton.mp hd]; rfl
  · exact absurd hd (by simp)

namespace Checker

variable {c : Checker} {ts u before : List Tag} {t : Tag}

/-! ### A run that has not halted -/

theorem length_stack_apply (h : (c.apply t).halted = false) :
    ((c.apply t).stack.length : Int) = c.stack.length + t.kind.weight := by
  rcases apply_cases c t with ⟨hc | ht, e⟩ | ⟨-, ht, e⟩ | ⟨-, -, -, e⟩ | ⟨o, s, -, ht, hs, e⟩
  · rw [e, hc] at h
    exact Bool.noConfusion h
  · rw [e, ht, Kind.weight]
    omega
  · rw [e, ht, Kind.weight, List.length_cons]
    omega
  · rw [e] at h
    exact Bool.noConfusion h
  · rw [e, ht, Kind.weight, hs, List.length_cons]
    dsimp only
    omega

/-- **The number of open tags is the sum.** -/
theorem length_stack_run (h : (c.run ts).halted = false) :
    ((c.run ts).stack.length : Int) = c.stack.length + depth ts := by
  induction ts generalizing c with
  | nil => simp
  | cons t ts ih =>
    rw [run_cons] at h ⊢
    have hstep := length_stack_apply (not_halted_of_run h)
    rw [ih h, hstep, depth_cons]
    omega

theorem depth_nonneg_of_prefix (h : (c.run ts).halted = false) (hu : u <+: ts) :
    0 ≤ c.stack.length + depth u := by
  obtain ⟨vs, rfl⟩ := hu
  rw [run_append] at h
  have hlen := length_stack_run (not_halted_of_run h)
  omega

/-- The same for the tags without the self-closing ones. -/
theorem depth_nonneg_of_prefix_filter (h : (c.run ts).halted = false)
    (hu : u <+: ts.filter fun t => t.kind ≠ .selfClosing) : 0 ≤ c.stack.length + depth u := by
  obtain ⟨v, hv, rfl⟩ := List.prefix_filter_iff.mp hu
  rw [depth_filter]
  exact depth_nonneg_of_prefix h hv

theorem filter_isUnexpected_apply (h : (c.apply t).halted = false) :
    (c.apply t).diagnostics.toList.filter (·.isUnexpected) =
      c.diagnostics.toList.filter (·.isUnexpected) := by
  rcases apply_cases c t with ⟨-, e⟩ | ⟨-, -, e⟩ | ⟨-, -, -, e⟩ | ⟨o, s, -, -, -, e⟩
  · rw [e]
  · rw [e]
  · rw [e] at h
    exact Bool.noConfusion h
  · have hnone : (c.policy.complaint o t).filter (·.isUnexpected) = [] := by
      rw [List.filter_eq_nil_iff]
      intro d hd
      rw [isUnexpected_of_mem_complaint hd]
      exact Bool.false_ne_true
    rw [e, Array.toList_appendList, List.filter_append, hnone, List.append_nil]

theorem filter_isUnexpected_run (h : (c.run ts).halted = false) :
    (c.run ts).diagnostics.toList.filter (·.isUnexpected) =
      c.diagnostics.toList.filter (·.isUnexpected) := by
  induction ts generalizing c with
  | nil => rfl
  | cons t ts ih =>
    rw [run_cons] at h ⊢
    rw [ih h, filter_isUnexpected_apply (not_halted_of_run h)]

/-! ### The tag at which a run halts -/

/-- **The run over `ts` halts at the tag `t`**, before which it has applied the tags `before`. -/
structure HaltsAt (c : Checker) (ts before : List Tag) (t : Tag) : Prop where
  here : before ++ [t] <+: ts
  runs : (c.run before).halted = false
  halts : (c.run (before ++ [t])).halted = true

theorem exists_haltsAt (hc : c.halted = false) (h : (c.run ts).halted = true) :
    ∃ before t, c.HaltsAt ts before t := by
  induction ts generalizing c with
  | nil =>
    rw [run_nil, hc] at h
    exact Bool.noConfusion h
  | cons t ts ih =>
    rcases ht : (c.apply t).halted with _ | _
    · obtain ⟨before, u, hhere, hruns, hhalts⟩ := ih ht h
      exact ⟨t :: before, u, List.cons_prefix_cons.mpr ⟨rfl, hhere⟩, hruns, hhalts⟩
    · exact ⟨[], t, List.prefix_append [t] ts, hc, ht⟩

namespace HaltsAt

/-- The tag at which a run halts closes a level where none is open, and the run ends with that. -/
theorem spec (h : c.HaltsAt ts before t) :
    t.kind = .closing ∧ (c.run before).stack = [] ∧
      c.run ts = { c.run before with
        diagnostics := (c.run before).diagnostics.push ⟨t.line, .unexpectedClosing t.name⟩,
        halted := true } := by
  have hend := run_eq_of_halted h.here h.halts
  have hhalts := h.halts
  have hruns := h.runs
  rw [run_concat] at hend hhalts
  rcases apply_cases (c.run before) t with
    ⟨-, e⟩ | ⟨-, -, e⟩ | ⟨-, ht, hs, e⟩ | ⟨o, s, -, -, -, e⟩
  · rw [e, hruns] at hhalts
    exact Bool.noConfusion hhalts
  · rw [e] at hhalts
    exact Bool.noConfusion (hruns.symm.trans hhalts)
  · exact ⟨ht, hs, hend.trans e⟩
  · rw [e] at hhalts
    exact Bool.noConfusion (hruns.symm.trans hhalts)

theorem depth_neg (h : c.HaltsAt ts before t) : c.stack.length + depth (before ++ [t]) < 0 := by
  obtain ⟨ht, hs, -⟩ := h.spec
  have hlen := length_stack_run h.runs
  rw [hs, List.length_nil] at hlen
  rw [depth_append, depth_cons, depth_nil, ht, Kind.weight]
  omega

/-- Of the diagnostics of a halted run just the last one is about an unexpected closing tag. -/
theorem filter_isUnexpected (h : c.HaltsAt ts before t) :
    (c.run ts).diagnostics.toList.filter (·.isUnexpected) =
      c.diagnostics.toList.filter (·.isUnexpected) ++ [⟨t.line, .unexpectedClosing t.name⟩] := by
  rw [h.spec.2.2, Array.toList_push, List.filter_append, filter_isUnexpected_run h.runs]
  rfl

/-- The halting tag in the tags without the self-closing ones. -/
theorem exists_split_filter (h : c.HaltsAt ts before t) :
    ∃ after, ts.filter (fun t => t.kind ≠ .selfClosing) =
      before.filter (fun t => t.kind ≠ .selfClosing) ++ t :: after := by
  obtain ⟨after, rfl⟩ := h.here
  refine ⟨after.filter fun t => t.kind ≠ .selfClosing, ?_⟩
  have ht : t.kind ≠ .selfClosing := by rw [h.spec.1]; decide
  rw [List.append_assoc, List.filter_append, List.singleton_append,
    List.filter_cons_of_pos (by simpa using ht)]

end HaltsAt

/-! ### The line at which a check halts -/

/-- **A check halts at a tag of the last line that it counts**, if the numbers of the lines and the
count begin together. -/
theorem exists_haltsAt_of_feedAll {number : Nat} {lines : List String} (hc : c.halted = false)
    (hn : number = c.linesScanned + 1) (h : (c.feedAll number lines).halted = true) :
    ∃ before t, c.HaltsAt (tagsFrom number lines) before t ∧
      (c.feedAll number lines).linesScanned = t.line := by
  induction lines generalizing c number with
  | nil => exact Bool.noConfusion (hc.symm.trans h)
  | cons line lines ih =>
    have hfeed := feed_of_not_halted hc number line
    rw [feedAll] at h ⊢
    rw [tagsFrom_cons]
    rcases hl : (c.run (tagsOfLine number line)).halted with _ | _
    · -- this line is passed, and the run goes on from where it has led
      have hc' : (c.feed number line).halted = false := by rw [hfeed]; exact hl
      have hn' : number + 1 = (c.feed number line).linesScanned + 1 := by rw [hfeed, hn]; rfl
      obtain ⟨before, t, ⟨hhere, hruns, hhalts⟩, hcount⟩ := ih hc' hn' h
      rw [hfeed, run_withLines] at hruns hhalts
      refine ⟨tagsOfLine number line ++ before, t, ⟨?_, ?_, ?_⟩, hcount⟩
      · rw [List.append_assoc]
        exact (List.prefix_append_right_inj _).mpr hhere
      · rw [run_append]
        exact hruns
      · rw [List.append_assoc, run_append]
        exact hhalts
    · obtain ⟨before, t, hat⟩ := exists_haltsAt hc hl
      have hstop : (c.feed number line).halted = true := by rw [hfeed]; exact hl
      have hmem : t ∈ tagsOfLine number line := hat.here.subset (by simp)
      refine ⟨before, t, ⟨hat.here.trans (List.prefix_append _ _), hat.runs, hat.halts⟩, ?_⟩
      rw [feedAll_of_halted hstop, hfeed, line_of_mem_tagsOfLine hmem, hn]
      rfl

end Checker

/-! ### Checks -/

section Check
variable (lines : List String) (p : Policy)

theorem unclosed_checkLines :
    (checkLines lines p).unclosed = ((Checker.new p).run (tagsFrom 1 lines)).finish.unclosed := by
  unfold Report.unclosed
  rw [checkLines_diagnostics]

theorem closingFaults_checkLines : (checkLines lines p).closingFaults =
    ((Checker.new p).run (tagsFrom 1 lines)).diagnostics.toList := by
  rw [← ((Checker.onlyClosing_new p).run (tagsFrom 1 lines)).closingFaults_finish]
  unfold Report.closingFaults
  rw [checkLines_diagnostics]

end Check

variable {lines : List String} {p : Policy}

theorem length_stack_new (p : Policy) : ((Checker.new p).stack.length : Int) = 0 := rfl

theorem exists_haltsAt_of_checkLines (h : (checkLines lines p).halted = true) :
    ∃ before t, (Checker.new p).HaltsAt (tagsFrom 1 lines) before t ∧
      (checkLines lines p).linesScanned = t.line := by
  rw [checkLines_eq] at h ⊢
  exact Checker.exists_haltsAt_of_feedAll rfl rfl h

theorem linesScanned_of_not_halted (h : (checkLines lines p).halted = false) :
    (checkLines lines p).linesScanned = lines.length := by
  rw [checkLines_eq] at h ⊢
  exact (Checker.linesScanned_feedAll h).trans (Nat.zero_add _)

theorem length_unclosed_of_not_halted (h : (checkLines lines p).halted = false) :
    ((checkLines lines p).unclosed.length : Int) = depth (levelStream lines) := by
  have hclosing := (Checker.onlyClosing_new p).run (tagsFrom 1 lines)
  rw [checkLines_halted] at h
  have hlen := Checker.length_stack_run h
  rw [length_stack_new, zero_add] at hlen
  rw [unclosed_checkLines, hclosing.unclosed_finish, h, levelStream, depth_filter, ← hlen]
  simp [Checker.openTags]

theorem depth_nonneg_of_not_halted (h : (checkLines lines p).halted = false) {u : List Tag}
    (hu : u <+: levelStream lines) : 0 ≤ depth u := by
  rw [checkLines_halted] at h
  have hnonneg := Checker.depth_nonneg_of_prefix_filter h hu
  rwa [length_stack_new, zero_add] at hnonneg

/-- The first tag at which the depth becomes negative is the one at which a check halts. -/
theorem exists_first_negative (h : (checkLines lines p).halted = true) :
    ∃ before t after, levelStream lines = before ++ t :: after ∧
      (∀ u, u <+: before → 0 ≤ depth u) ∧ depth (before ++ [t]) < 0 ∧
      (checkLines lines p).diagnostics.filter (·.isUnexpected) =
        [⟨t.line, .unexpectedClosing t.name⟩] ∧
      (checkLines lines p).linesScanned = t.line := by
  obtain ⟨before, t, hat, hline⟩ := exists_haltsAt_of_checkLines h
  obtain ⟨after, hsplit⟩ := hat.exists_split_filter
  have hneg := hat.depth_neg
  rw [length_stack_new, zero_add, depth_append] at hneg
  refine ⟨_, t, after, hsplit, fun u hu => ?_, ?_, ?_, hline⟩
  · have hnonneg := Checker.depth_nonneg_of_prefix_filter hat.runs hu
    rwa [length_stack_new, zero_add] at hnonneg
  · rwa [depth_append, depth_filter]
  · rw [checkLines_diagnostics, Checker.filter_finish _ fun _ => rfl, hat.filter_isUnexpected]
    rfl

theorem halted_checkLines_iff : (checkLines lines p).halted = true ↔
    ∃ u, u <+: levelStream lines ∧ depth u < 0 := by
  constructor
  · intro h
    obtain ⟨before, t, after, hsplit, -, hneg, -⟩ := exists_first_negative h
    refine ⟨before ++ [t], ⟨after, ?_⟩, hneg⟩
    rw [hsplit, List.append_assoc, List.singleton_append]
  · rintro ⟨u, hu, hneg⟩
    by_contra h
    rw [Bool.not_eq_true] at h
    have hnonneg := depth_nonneg_of_not_halted h hu
    omega

theorem stackEmptied_checkLines_iff : (checkLines lines p).stackEmptied = true ↔
    (∀ u, u <+: levelStream lines → 0 ≤ depth u) ∧ depth (levelStream lines) = 0 := by
  rw [Report.stackEmptied_iff]
  constructor
  · rintro ⟨hh, hu⟩
    have hlen := length_unclosed_of_not_halted hh
    rw [hu, List.length_nil] at hlen
    exact ⟨fun u => depth_nonneg_of_not_halted hh, hlen.symm⟩
  · rintro ⟨hnonneg, htotal⟩
    have hh : (checkLines lines p).halted = false := by
      rw [← Bool.not_eq_true, halted_checkLines_iff]
      rintro ⟨u, hu, hneg⟩
      have := hnonneg u hu
      omega
    have hlen := length_unclosed_of_not_halted hh
    rw [htotal] at hlen
    exact ⟨hh, List.length_eq_zero_iff.mp (by omega)⟩

theorem bang_notMem_name {number : Nat} {t : Tag} (ht : t ∈ tagsFrom number lines) :
    '!' ∉ t.name.toList := by
  obtain ⟨l, -, hl⟩ := List.mem_flatMap.mp ht
  intro hmem
  have hword := isWordChar_of_mem_name hl '!' hmem
  rw [show Text.WordClass.isWordChar '!' = false by decide +kernel] at hword
  exact Bool.noConfusion hword

/-- A written report ends with the line that says so iff nothing was left open. -/
theorem endsWithLine_checkLines_iff :
    EndsWithLine (checkLines lines p).toText "All tags balanced!" ↔
      (checkLines lines p).stackEmptied = true := by
  refine Report.endsWithLine_toText_iff fun h => ?_
  obtain ⟨before, t, hat, -⟩ := exists_haltsAt_of_checkLines h
  refine ⟨((Checker.new p).run before).diagnostics.toList, t.line, t.name, ?_,
    bang_notMem_name (hat.here.subset (by simp))⟩
  rw [closingFaults_checkLines, hat.spec.2.2, Array.toList_push]

/-- **A check is decided by sums.**  With `+1` for an opening and `-1` for a closing tag, it halts iff
some beginning of the tags has a negative sum, namely at the first tag at which that happens, on the
last line counted; otherwise it counts all lines and leaves as many tags open as the total says.  So
the halt, the count of lines, whether anything is left open, and whether the written report ends by
saying that nothing is, depend only on the kinds of the tags of each line. -/
theorem checkLines_by_depth (lines : List String) (p : Policy) :
    ((checkLines lines p).halted = true ↔ ∃ u, u <+: levelStream lines ∧ depth u < 0) ∧
    ((checkLines lines p).halted = true →
      ∃ before t after, levelStream lines = before ++ t :: after ∧
        (∀ u, u <+: before → 0 ≤ depth u) ∧ depth (before ++ [t]) < 0 ∧
        (checkLines lines p).diagnostics.filter (·.isUnexpected) =
          [⟨t.line, .unexpectedClosing t.name⟩] ∧
        (checkLines lines p).linesScanned = t.line) ∧
    ((checkLines lines p).halted = false →
      (checkLines lines p).linesScanned = lines.length ∧
      ((checkLines lines p).unclosed.length : Int) = depth (levelStream lines)) ∧
    ((checkLines lines p).stackEmptied = true ↔
      (∀ u, u <+: levelStream lines → 0 ≤ depth u) ∧ depth (levelStream lines) = 0) ∧
    ∀ (lines' : List String) (p' : Policy), lines.map kindsOfLine = lines'.map kindsOfLine →
      (checkLines lines p).halted = (checkLines lines' p').halted ∧
      (checkLines lines p).linesScanned = (checkLines lines' p').linesScanned ∧
      (checkLines lines p).stackEmptied = (checkLines lines' p').stackEmptied ∧
      (EndsWithLine (checkLines lines p).toText "All tags balanced!" ↔
        EndsWithLine (checkLines lines' p').toText "All tags balanced!") := by
  refine ⟨halted_checkLines_iff, exists_first_negative,
    fun h => ⟨linesScanned_of_not_halted h, length_unclosed_of_not_halted h⟩,
    stackEmptied_checkLines_iff, ?_⟩
  intro lines' p' hk
  obtain ⟨hh, hl, hs⟩ := checkLines_congr_kinds p p' hk
  exact ⟨hh, hl, hs, by rw [endsWithLine_checkLines_iff, endsWithLine_checkLines_iff, hs]⟩

/-- A check that halts on its third line, a document with the same kinds of tags under the other
policy, and a check that does not halt. -/
theorem checkLines_by_depth_three_lines :
    let halting := ["<a><br>", "</b>", "</i></u>"]
    let renamed := ["<div><p/>", "</div>", "</p></p>"]
    let unclosing := ["<div>", "", "<p></i>"]
    (checkLines halting .all).halted = true ∧
    (∃ before t after, levelStream halting = before ++ t :: after ∧ depth (before ++ [t]) < 0 ∧
      (checkLines halting .all).linesScanned = t.line) ∧
    halting.map kindsOfLine = renamed.map kindsOfLine ∧
    (checkLines halting .all).linesScanned = (checkLines renamed .divOnly).linesScanned ∧
    (checkLines unclosing .all).halted = false ∧
    (checkLines unclosing .all).linesScanned = unclosing.length ∧
    ((checkLines unclosing .all).unclosed.length : Int) = depth (levelStream unclosing) := by
  intro halting renamed unclosing
  have hh : (checkLines halting .all).halted = true := by decide +kernel
  have hk : halting.map kindsOfLine = renamed.map kindsOfLine := by decide +kernel
  have ho : (checkLines unclosing .all).halted = false := by decide +kernel
  obtain ⟨-, hfirst, -, -, hcongr⟩ := checkLines_by_depth halting .all
  obtain ⟨before, t, after, hsplit, -, hneg, -, hline⟩ := hfirst hh
  obtain ⟨hcount, hlen⟩ := (checkLines_by_depth unclosing .all).2.2.1 ho
  exact ⟨hh, ⟨before, t, after, hsplit, hneg, hline⟩, hk, (hcongr renamed .divOnly hk).2.1, ho,
    hcount, hlen⟩

end TagNesting
