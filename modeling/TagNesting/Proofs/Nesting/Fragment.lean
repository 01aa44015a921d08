import TagNesting.Proofs.Nesting.Run
import TagNesting.Proofs.Tag.Numbering

/-!
# Fragments that close what they open

A list of lines that leaves nothing open, checked on its own, can stand anywhere: fed to a checker in
any state, it leaves the open tags of that state alone and adds just its own mismatches, with their
lines counted from where it stands.

The run of the fragment on its own and the run in its place go in step.  `Checker.above base k c` is
the state `c` of the first put on top of the state `base` in which the fragment was met, `k` lines
further down.  A step that does not halt `c` does the same above `base` (`Checker.apply_above`), for
no closing tag of the fragment reaches the open tags of `base`; so does a whole run, and so do all
lines (`Checker.feedAll_above`).
-/

namespace TagNesting

/-- The same open tag `k` lines further down. -/
def OpenTag.shift (k : Nat) (o : OpenTag) : OpenTag := { o with line := o.line + k }

/-- The same fault `k` lines further down: the line that opened the tag moves along. -/
def Fault.shift (k : Nat) : Fault → Fault
  | .mismatch expected openedAt found => .mismatch expected (openedAt + k) found
  | .unexpectedClosing name => .unexpectedClosing name
  | .unclosed name => .unclosed name

/-- The same diagnostic `k` lines further down. -/
def Diagnostic.shift (k : Nat) (d : Diagnostic) : Diagnostic := ⟨d.line + k, d.fault.shift k⟩

theorem Policy.complaint_shift (p : Policy) (k : Nat) (o : OpenTag) (t : Tag) :
    p.complaint (o.shift k) (t.shift k) = (p.complaint o t).map (Diagnostic.shift k) := by
  unfold Policy.complaint OpenTag.shift Tag.shift
  dsimp only
  split
  · rfl
  · rfl

namespace Checker

/-! ### One state above another -/

/-- **The state `c`, `k` lines further down, on top of the state `base`.** -/
def above (base : Checker) (k : Nat) (c : Checker) : Checker where
  policy := c.policy
  stack := c.stack.map (OpenTag.shift k) ++ base.stack
  diagnostics := base.diagnostics ++ c.diagnostics.map (Diagnostic.shift k)
  halted := c.halted
  linesScanned := base.linesScanned + c.linesScanned

variable {base c : Checker} {k : Nat}

theorem above_new (h : base.halted = false) : base.above k (new base.policy) = base := by
  unfold above new
  simp [← h]

theorem apply_above {t : Tag} (h : (c.apply t).halted = false) :
    (base.above k c).apply (t.shift k) = base.above k (c.apply t) := by
  rcases apply_cases c t with ⟨hc | ht, e⟩ | ⟨hc, ht, e⟩ | ⟨hc, ht, hs, e⟩ | ⟨o, s, hc, ht, hs, e⟩
  · rw [e, hc] at h
    exact Bool.noConfusion h
  · rw [e]
    exact apply_selfClosing _ ht
  · rw [e]
    exact apply_opening (t := t.shift k) hc ht
  · -- only a tag that finds the stack of `c` empty could reach below it
    rw [e] at h
    exact Bool.noConfusion h
  · have hs' : (base.above k c).stack = o.shift k :: (s.map (OpenTag.shift k) ++ base.stack) := by
      unfold above
      rw [hs]
      rfl
    have hclose := apply_closing_cons (c := base.above k c) (t := t.shift k) hc ht hs'
    rw [e, hclose, Policy.complaint_shift]
    unfold above
    dsimp only
    congr 1
    exact Array.toList_inj.mp (by simp)

theorem run_above {ts : List Tag} (h : (c.run ts).halted = false) :
    (base.above k c).run (ts.map (Tag.shift k)) = base.above k (c.run ts) := by
  induction ts generalizing c with
  | nil => rfl
  | cons t ts ih =>
    rw [run_cons] at h ⊢
    rw [List.map_cons, run_cons, apply_above (not_halted_of_run h), ih h]

theorem feed_above {number : Nat} {line : String} (h : (c.feed number line).halted = false) :
    (base.above k c).feed (number + k) line = base.above k (c.feed number line) := by
  have hc := not_halted_of_feed h
  rw [feed_of_not_halted hc] at h ⊢
  have hc' : (base.above k c).halted = false := hc
  rw [feed_of_not_halted hc', tagsOfLine_add, run_above h]
  unfold above withLines
  simp [Nat.add_assoc]

/-- **Lines that do not halt do the same above any state.** -/
theorem feedAll_above {number : Nat} {lines : List String}
    (h : (c.feedAll number lines).halted = false) :
    (base.above k c).feedAll (number + k) lines = base.above k (c.feedAll number lines) := by
  induction lines generalizing c number with
  | nil => rfl
  | cons line lines ih =>
    rw [feedAll] at h ⊢
    rw [feedAll, feed_above (not_halted_of_feedAll h), Nat.add_right_comm, ih h]

end Checker

/-! ### Lines fed one by one -/

/-- Feeds lines one after the other, whatever the caller is told, and lists what that is; the first
line has the given number. -/
def Progress.feedEach (p : Progress) (number : Nat) : List String → Progress × List Signal
  | [] => (p, [])
  | line :: lines =>
    let after := (p.feed number line).feedEach (number + 1) lines
    (after.1, p.feedSignal number line :: after.2)

theorem Progress.feedEach_checker (p : Progress) (number : Nat) (lines : List String) :
    (p.feedEach number lines).1.checker = p.checker.feedAll number lines := by
  induction lines generalizing p number with
  | nil => rfl
  | cons line lines ih =>
    rw [Progress.feedEach, ih, Progress.feed_checker]
    rfl

/-- Lines that do not halt let the caller go on every time. -/
theorem Progress.feedEach_signals {p : Progress} {number : Nat} {lines : List String}
    (h : (p.checker.feedAll number lines).halted = false) :
    (p.feedEach number lines).2 = List.replicate lines.length .goOn := by
  induction lines generalizing p number with
  | nil => rfl
  | cons line lines ih =>
    rw [Checker.feedAll, ← Progress.feed_checker] at h
    have hfirst : p.feedSignal number line = .goOn := by
      rw [Progress.feedSignal_eq, Checker.not_halted_of_feedAll h]
      rfl
    rw [Progress.feedEach, hfirst, ih h]
    rfl

/-! ### A fragment in its place -/

theorem checkLines_of_stackEmptied {lines : List String} {p : Policy}
    (h : (checkLines lines p).stackEmptied = true) :
    ((Checker.new p).feedAll 1 lines).halted = false ∧
      ((Checker.new p).feedAll 1 lines).stack = [] ∧
      (checkLines lines p).diagnostics =
        ((Checker.new p).feedAll 1 lines).diagnostics.toList := by
  have hclosing := (Checker.onlyClosing_new p).feedAll 1 lines
  rw [checkLines_eq] at h ⊢
  obtain ⟨hh, hs⟩ := hclosing.stackEmptied_finish.mp h
  refine ⟨hh, hs, ?_⟩
  unfold Checker.finish Checker.openTags
  rw [hh, hs]
  simp

/-- **A fragment that closes what it opens is transparent.**  If a check of `lines` on their own ends
with nothing left open, then feeding them to a check that has not halted, numbered from `k + 1`, lets
the caller go on every time, leaves the open tags as they were, and adds the diagnostics of the
fragment, `k` lines further down, and the number of its lines. -/
theorem feedEach_of_stackEmptied (p : Progress) (lines : List String) (k : Nat)
    (hp : p.checker.halted = false)
    (h : (checkLines lines p.checker.policy).stackEmptied = true) :
    (p.feedEach (k + 1) lines).2 = List.replicate lines.length .goOn ∧
    (p.feedEach (k + 1) lines).1.checker.stack = p.checker.stack ∧
    (p.feedEach (k + 1) lines).1.checker.halted = false ∧
    (p.feedEach (k + 1) lines).1.checker.policy = p.checker.policy ∧
    (p.feedEach (k + 1) lines).1.checker.diagnostics.toList = p.checker.diagnostics.toList ++
      (checkLines lines p.checker.policy).diagnostics.map (Diagnostic.shift k) ∧
    (p.feedEach (k + 1) lines).1.checker.linesScanned =
      p.checker.linesScanned + lines.length := by
  obtain ⟨hh, hs, hd⟩ := checkLines_of_stackEmptied h
  have hfed : p.checker.feedAll (k + 1) lines =
      p.checker.above k ((Checker.new p.checker.policy).feedAll 1 lines) := by
    rw [← Checker.feedAll_above hh, Checker.above_new hp, Nat.add_comm]
  have hcount := Checker.linesScanned_feedAll hh
  have hpolicy := (Checker.new p.checker.policy).feedAll_policy 1 lines
  have hgo : (p.checker.feedAll (k + 1) lines).halted = false := by rw [hfed]; exact hh
  rw [Progress.feedEach_checker, Progress.feedEach_signals hgo, hfed, hd]
  unfold Checker.above
  refine ⟨rfl, ?_, hh, hpolicy, ?_, ?_⟩
  · rw [hs]; rfl
  · simp
  · rw [hcount]
    simp [Checker.new]

/-- Two lines under an open tag, ten lines further down: the names of the fragment do not match, and
the open tag stays. -/
theorem feedEach_of_stackEmptied_under_main :
    let p : Progress := { checker :=
      { policy := .divOnly, stack := [⟨"main", 4⟩], diagnostics := #[⟨2, .mismatch "div" 1 "p"⟩],
        linesScanned := 10 } }
    let lines := ["<div><p>", "</div></i>"]
    (checkLines lines p.checker.policy).stackEmptied = true ∧
    (p.feedEach (10 + 1) lines).2 = [.goOn, .goOn] ∧
    (p.feedEach (10 + 1) lines).1.checker.stack = [⟨"main", 4⟩] ∧
    (p.feedEach (10 + 1) lines).1.checker.diagnostics.toList =
      [⟨2, .mismatch "div" 1 "p"⟩, ⟨12, .mismatch "p" 11 "div"⟩, ⟨12, .mismatch "div" 11 "i"⟩] ∧
    (p.feedEach (10 + 1) lines).1.checker.linesScanned = 12 := by
  intro p lines
  have h : (checkLines lines p.checker.policy).stackEmptied = true := by decide +kernel
  have hd : (checkLines lines p.checker.policy).diagnostics =
      [⟨2, .mismatch "p" 1 "div"⟩, ⟨2, .mismatch "div" 1 "i"⟩] := by decide +kernel
  obtain ⟨hgo, hstack, -, -, hdiag, hcount⟩ := feedEach_of_stackEmptied p lines 10 rfl h
  rw [hd] at hdiag
  exact ⟨h, hgo, hstack, hdiag, hcount⟩

end TagNesting
