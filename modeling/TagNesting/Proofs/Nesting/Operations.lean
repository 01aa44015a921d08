import TagNesting.Proofs.Nesting.Depth

/-!
# Any sequence of operations

A caller may feed lines and apply tags in any order, with any numbers, names and kinds, and may go
on after a halt.  In every state that is reached so (`Checker.Sound`) the diagnostics are reported
mismatches, followed by the closing tag at which the check has halted, if it has; then nothing is
open.

`Checker.Sound.apply` says what one tag keeps, `Checker.Sound.run` what the tags of a line keep and
`Progress.sound_performAll` what all operations keep; the count of lines is that of the lines fed
before the halt (`Progress.linesScanned_performAll`).
-/

namespace TagNesting

/-! ### Operations -/

/-- What a caller can do with a check. -/
inductive Operation where
  /-- Feeds a line under a number. -/
  | line (number : Nat) (text : String)
  /-- Applies a tag, which may come from anywhere. -/
  | tag (t : Tag)
  deriving DecidableEq, Repr

/-- The operation feeds a line. -/
def Operation.isLine : Operation → Bool
  | .line _ _ => true
  | .tag _ => false

namespace Progress

/-- The check after an operation. -/
def perform (s : Progress) : Operation → Progress
  | .line number text => s.feed number text
  | .tag t => { checker := s.checker.apply t, log := s.log ++ s.checker.note t }

/-- What an operation tells the caller. -/
def answer (s : Progress) : Operation → Signal
  | .line number text => s.feedSignal number text
  | .tag t => s.checker.signal t

/-- **The check after a sequence of operations.** -/
def performAll (s : Progress) (ops : List Operation) : Progress := ops.foldl perform s

/-- How many lines are fed before the check has halted, the line that halts it included. -/
def linesFed (s : Progress) : List Operation → Nat
  | [] => 0
  | op :: ops =>
    (if op.isLine = true ∧ s.checker.halted = false then 1 else 0) + (s.perform op).linesFed ops

end Progress

/-! ### The states that are reached -/

/-- The diagnostic is a mismatch that the policy reports. -/
def Policy.Reported (p : Policy) (d : Diagnostic) : Prop :=
  ∃ expected openedAt found, d.fault = .mismatch expected openedAt found ∧ expected ≠ found ∧
    p.reports expected found = true

theorem Policy.reported_of_mem_complaint {p : Policy} {o : OpenTag} {t : Tag} {d : Diagnostic}
    (hd : d ∈ p.complaint o t) : p.Reported d := by
  unfold Policy.complaint at hd
  split at hd
  · next h =>
    rw [List.mem_singleton] at hd
    subst hd
    exact ⟨o.name, o.line, t.name, rfl, h.1, h.2⟩
  · exact absurd hd List.not_mem_nil

namespace Policy.Reported

variable {p : Policy} {d : Diagnostic}

theorem not_isUnexpected (h : p.Reported d) : d.isUnexpected = false := by
  obtain ⟨expected, openedAt, found, hf, -⟩ := h
  unfold Diagnostic.isUnexpected
  rw [hf]

theorem not_isUnclosed (h : p.Reported d) : d.isUnclosed = false := by
  obtain ⟨expected, openedAt, found, hf, -⟩ := h
  unfold Diagnostic.isUnclosed
  rw [hf]

end Policy.Reported

namespace Checker

/-- **A state that operations lead to.**  Before the halt there are only reported mismatches.  The
halt adds the one closing tag that nothing was open for. -/
structure Sound (p : Policy) (c : Checker) : Prop where
  policy : c.policy = p
  running : c.halted = false → ∀ d ∈ c.diagnostics.toList, p.Reported d
  stopped : c.halted = true → c.stack = [] ∧ ∃ ds line name,
    c.diagnostics.toList = ds ++ [⟨line, .unexpectedClosing name⟩] ∧ ∀ d ∈ ds, p.Reported d

theorem sound_new (p : Policy) : Sound p (new p) where
  policy := rfl
  running := by
    intro _ d hd
    exact absurd hd (by simp [new])
  stopped := fun h => Bool.noConfusion h

variable {p : Policy} {c : Checker}

namespace Sound

theorem of_running (hp : c.policy = p) (hc : c.halted = false)
    (hd : ∀ d ∈ c.diagnostics.toList, p.Reported d) : Sound p c where
  policy := hp
  running := fun _ => hd
  stopped := fun h => Bool.noConfusion (hc.symm.trans h)

/-- One tag keeps the state sound. -/
theorem apply (h : Sound p c) (t : Tag) : Sound p (c.apply t) := by
  rcases apply_cases c t with ⟨-, e⟩ | ⟨hc, -, e⟩ | ⟨hc, -, hs, e⟩ | ⟨o, s, hc, -, -, e⟩
  · rw [e]
    exact h
  · rw [e]
    exact of_running h.policy hc (h.running hc)
  · rw [e]
    refine ⟨h.policy, fun hr => Bool.noConfusion hr, fun _ => ⟨hs, ?_⟩⟩
    exact ⟨c.diagnostics.toList, t.line, t.name, Array.toList_push, h.running hc⟩
  · rw [e]
    refine of_running h.policy hc fun d hd => ?_
    rw [Array.toList_appendList, List.mem_append, h.policy] at hd
    rcases hd with hd | hd
    · exact h.running hc d hd
    · exact Policy.reported_of_mem_complaint hd

theorem run (h : Sound p c) (ts : List Tag) : Sound p (c.run ts) := by
  induction ts generalizing c with
  | nil => exact h
  | cons t ts ih => exact ih (h.apply t)

/-- The count of lines plays no part. -/
theorem withLines (h : Sound p c) (k : Nat) : Sound p (c.withLines k) :=
  ⟨h.policy, h.running, h.stopped⟩

theorem feed (h : Sound p c) (number : Nat) (line : String) : Sound p (c.feed number line) := by
  rcases hc : c.halted with _ | _
  · rw [feed_of_not_halted hc]
    exact (h.run _).withLines _
  · rw [feed_of_halted hc]
    exact h

/-! What the fields say about the diagnostics. -/

theorem halted_iff (h : Sound p c) :
    c.halted = true ↔ ∃ d ∈ c.diagnostics.toList, d.isUnexpected = true := by
  constructor
  · intro hc
    obtain ⟨-, ds, line, name, hd, -⟩ := h.stopped hc
    exact ⟨_, by rw [hd]; exact List.mem_concat_self, rfl⟩
  · rintro ⟨d, hmem, hd⟩
    by_contra hc
    rw [Bool.not_eq_true] at hc
    rw [(h.running hc d hmem).not_isUnexpected] at hd
    exact Bool.noConfusion hd

theorem reported_or_last (h : Sound p c) {before after : List Diagnostic} {d : Diagnostic}
    (hsplit : c.diagnostics.toList = before ++ d :: after) :
    p.Reported d ∨ after = [] ∧ (∃ name, d.fault = .unexpectedClosing name) ∧
      ∀ e ∈ before, p.Reported e := by
  rcases hc : c.halted with _ | _
  · exact Or.inl (h.running hc d (by rw [hsplit]; simp))
  · obtain ⟨-, ds, line, name, hd, hds⟩ := h.stopped hc
    rw [hsplit] at hd
    rcases List.eq_nil_or_concat' after with rfl | ⟨rest, last, rfl⟩
    · obtain ⟨rfl, hlast⟩ := List.append_inj' hd rfl
      obtain rfl := List.singleton_inj.mp hlast
      exact Or.inr ⟨rfl, ⟨name, rfl⟩, hds⟩
    · -- `d` is not the last diagnostic, so it is one of those before the halt
      rw [← List.cons_append, ← List.append_assoc] at hd
      obtain ⟨rfl, -⟩ := List.append_inj' hd rfl
      exact Or.inl (hds d (by simp))

theorem not_isUnclosed (h : Sound p c) {d : Diagnostic} (hd : d ∈ c.diagnostics.toList) :
    d.isUnclosed = false := by
  obtain ⟨before, after, hsplit⟩ := List.append_of_mem hd
  rcases h.reported_or_last hsplit with hr | ⟨-, ⟨name, hf⟩, -⟩
  · exact hr.not_isUnclosed
  · unfold Diagnostic.isUnclosed
    rw [hf]

theorem mismatch (h : Sound p c) {d : Diagnostic} (hd : d ∈ c.diagnostics.toList)
    {expected found : String} {openedAt : Nat} (hf : d.fault = .mismatch expected openedAt found) :
    expected ≠ found ∧ p.reports expected found = true := by
  obtain ⟨before, after, hsplit⟩ := List.append_of_mem hd
  rcases h.reported_or_last hsplit with ⟨_, _, _, hf', hne, hr⟩ | ⟨-, ⟨name, hf'⟩, -⟩
  · rw [hf] at hf'
    obtain ⟨rfl, -, rfl⟩ := Fault.mismatch.inj hf'
    exact ⟨hne, hr⟩
  · rw [hf] at hf'
    exact Fault.noConfusion hf'

/-- The report leaves out no open tag, although that of a halted check lists none. -/
theorem finish_diagnostics (h : Sound p c) :
    c.finish.diagnostics = c.diagnostics.toList ++ c.openTags.map unclosedOf := by
  unfold finish openTags
  rcases hc : c.halted with _ | _
  · rfl
  · rw [(h.stopped hc).1]
    rfl

end Sound

end Checker

/-! ### One operation -/

namespace Progress

theorem feed_of_halted {s : Progress} (h : s.checker.halted = true) (number : Nat)
    (text : String) : s.feed number text = s := by
  unfold feed
  rw [if_pos h]

/-- **After the halt an operation changes nothing**, nor does it log anything. -/
theorem perform_of_halted {s : Progress} (h : s.checker.halted = true) (op : Operation) :
    s.perform op = s := by
  cases op with
  | line number text => exact feed_of_halted h number text
  | tag t =>
    rw [perform, Checker.apply_of_halted h, Checker.note_of_halted h]
    simp

theorem answer_eq (s : Progress) (op : Operation) :
    s.answer op = if (s.perform op).checker.halted then .halt else .goOn := by
  cases op with
  | line number text => exact feedSignal_eq s number text
  | tag t => exact Checker.signal_eq s.checker t

theorem answer_eq_halt_iff (s : Progress) (op : Operation) :
    s.answer op = .halt ↔ (s.perform op).checker.halted = true := by
  rw [answer_eq]
  rcases (s.perform op).checker.halted with _ | _
  · simp
  · simp

theorem diagnostics_prefix_perform (s : Progress) (op : Operation) :
    s.checker.diagnostics.toList <+: (s.perform op).checker.diagnostics.toList := by
  cases op with
  | line number text =>
    rw [perform, feed_checker]
    rcases hc : s.checker.halted with _ | _
    · rw [Checker.feed_of_not_halted hc]
      exact Checker.diagnostics_prefix_run _ _
    · rw [Checker.feed_of_halted hc]
  | tag t => exact Checker.diagnostics_prefix_apply s.checker t

theorem sound_perform {p : Policy} {s : Progress} (h : s.checker.Sound p) (op : Operation) :
    (s.perform op).checker.Sound p := by
  cases op with
  | line number text =>
    rw [perform, feed_checker]
    exact h.feed number text
  | tag t => exact h.apply t

theorem linesScanned_perform (s : Progress) (op : Operation) :
    (s.perform op).checker.linesScanned =
      s.checker.linesScanned + if op.isLine = true ∧ s.checker.halted = false then 1 else 0 := by
  rcases hc : s.checker.halted with _ | _
  · cases op with
    | line number text =>
      rw [perform, feed_checker, Checker.feed_of_not_halted hc]
      rfl
    | tag t => exact Checker.apply_linesScanned s.checker t
  · rw [perform_of_halted hc]
    simp

/-! ### All operations -/

theorem sound_performAll {p : Policy} {s : Progress} (h : s.checker.Sound p)
    (ops : List Operation) : (s.performAll ops).checker.Sound p := by
  induction ops generalizing s with
  | nil => exact h
  | cons op ops ih => exact ih (sound_perform h op)

theorem linesScanned_performAll (s : Progress) (ops : List Operation) :
    (s.performAll ops).checker.linesScanned = s.checker.linesScanned + s.linesFed ops := by
  induction ops generalizing s with
  | nil => rfl
  | cons op ops ih =>
    have hrest := ih (s.perform op)
    rw [linesScanned_perform] at hrest
    rw [linesFed, ← Nat.add_assoc]
    exact hrest

end Progress

/-- **What holds after every sequence of operations.**  The check has halted iff a closing tag was
found unexpected, and that diagnostic is the only one of its kind and the last one; then nothing is
open, so the report leaves out no open tag.  No diagnostic is about a tag left open, every mismatch
is one that the policy reports, and the policy is the one the check began with.  The lines counted
are those fed before the halt.  A further operation only appends diagnostics, tells the caller to
stop iff the check has then halted, and changes nothing if it had halted before. -/
theorem performAll_start (p : Policy) (ops : List Operation) :
    let s := (Progress.start p).performAll ops
    (s.checker.halted = true ↔ ∃ d ∈ s.checker.diagnostics.toList, d.isUnexpected = true) ∧
    (∀ before d after, s.checker.diagnostics.toList = before ++ d :: after →
      d.isUnexpected = true → after = [] ∧ ∀ e ∈ before, e.isUnexpected = false) ∧
    (s.checker.halted = true → s.checker.stack = []) ∧
    s.checker.finish.diagnostics =
      s.checker.diagnostics.toList ++ s.checker.openTags.map Checker.unclosedOf ∧
    (∀ d ∈ s.checker.diagnostics.toList, d.isUnclosed = false) ∧
    (∀ d ∈ s.checker.diagnostics.toList, ∀ expected openedAt found,
      d.fault = .mismatch expected openedAt found →
        expected ≠ found ∧ p.reports expected found = true) ∧
    s.checker.policy = p ∧
    s.checker.linesScanned = (Progress.start p).linesFed ops ∧
    ∀ op, s.checker.diagnostics.toList <+: (s.perform op).checker.diagnostics.toList ∧
      (s.answer op = .halt ↔ (s.perform op).checker.halted = true) ∧
      (s.checker.halted = true → s.perform op = s) := by
  intro s
  have hs : s.checker.Sound p := Progress.sound_performAll (Checker.sound_new p) ops
  refine ⟨hs.halted_iff, fun before d after hsplit hd => ?_, fun h => (hs.stopped h).1,
    hs.finish_diagnostics, fun d => hs.not_isUnclosed, fun d hd _ _ _ => hs.mismatch hd, hs.policy,
    ?_, fun op => ⟨s.diagnostics_prefix_perform op, s.answer_eq_halt_iff op,
      fun h => Progress.perform_of_halted h op⟩⟩
  · rcases hs.reported_or_last hsplit with hr | ⟨hlast, -, hbefore⟩
    · rw [hr.not_isUnexpected] at hd
      exact Bool.noConfusion hd
    · exact ⟨hlast, fun e he => (hbefore e he).not_isUnexpected⟩
  · exact (Progress.linesScanned_performAll _ ops).trans (Nat.zero_add _)

/-- A tag that no line could hold, a line that halts in its middle, and a line that comes too late.
-/
theorem performAll_start_past_halt :
    let ops := [.tag ⟨.opening, "a b", 7⟩, .line 3 "<i></div></u></b><p>", .line 1 "<p>"]
    let s := (Progress.start .divOnly).performAll ops
    s.checker.halted = true ∧ s.checker.stack = [] ∧
    s.checker.diagnostics.toList =
      [⟨3, .mismatch "i" 3 "div"⟩] ++ ⟨3, .unexpectedClosing "b"⟩ :: [] ∧
    s.checker.linesScanned = 1 ∧ s.perform (.tag ⟨.closing, "", 0⟩) = s := by
  intro ops s
  have hh : s.checker.halted = true := by decide +kernel
  have hd : s.checker.diagnostics.toList =
      [⟨3, .mismatch "i" 3 "div"⟩] ++ ⟨3, .unexpectedClosing "b"⟩ :: [] := by decide +kernel
  obtain ⟨-, -, hstack, -, -, -, -, hlines, hnext⟩ := performAll_start .divOnly ops
  exact ⟨hh, hstack hh, hd, hlines.trans (by decide +kernel), (hnext _).2.2 hh⟩

end TagNesting
