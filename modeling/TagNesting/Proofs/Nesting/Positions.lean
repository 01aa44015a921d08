import TagNesting.Proofs.Nesting.Run
import TagNesting.Proofs.Tag.Numbering

/-!
# The lines that a report names

Every diagnostic names the line of a tag, and a mismatch also the line of the tag that it closes.
All these lines have been read, those of closing tags and those of tags left open are in order, and
the stretches of text from an opening tag to the closing tag of another name never cross: of two,
one follows the other or encloses it.

The reason is the stack.  Its lines decrease from the innermost open tag to the outermost, and a tag
that is still open either encloses a mismatch noted so far or was opened after it (`Checker.Placed`).
One tag keeps this (`Checker.Placed.apply`), and so do the tags of a line and all lines
(`Checker.Placed.feedAll`).
-/

namespace TagNesting

/-- The line of the tag that a mismatch closes. -/
def Diagnostic.openedAt? (d : Diagnostic) : Option Nat :=
  match d.fault with
  | .mismatch _ openedAt _ => some openedAt
  | _ => none

/-- **The stretches of two mismatches do not cross**: the later one begins after the earlier one, or
encloses it. -/
def Diagnostic.Apart (earlier later : Diagnostic) : Prop :=
  ∀ k ∈ earlier.openedAt?, ∀ k' ∈ later.openedAt?, earlier.line ≤ k' ∨ k' ≤ k

namespace Checker

/-- **The lines in a checker that has read up to line `now`.**  The last field says of every open
tag and every mismatch that the tag encloses the mismatch or was opened after it. -/
structure Placed (now : Nat) (c : Checker) : Prop where
  openTags : ∀ o ∈ c.stack, 1 ≤ o.line ∧ o.line ≤ now
  stack : c.stack.Pairwise fun inner outer => outer.line ≤ inner.line
  faults : ∀ d ∈ c.diagnostics.toList, 1 ≤ d.line ∧ d.line ≤ now ∧
    ∀ k ∈ d.openedAt?, 1 ≤ k ∧ k ≤ d.line
  sorted : c.diagnostics.toList.Pairwise fun d d' => d.line ≤ d'.line
  apart : c.diagnostics.toList.Pairwise Diagnostic.Apart
  around : ∀ o ∈ c.stack, ∀ d ∈ c.diagnostics.toList, ∀ k ∈ d.openedAt?,
    o.line ≤ k ∨ d.line ≤ o.line

theorem placed_new (p : Policy) : Placed 0 (new p) := by
  constructor <;> simp [new]

namespace Placed

variable {c : Checker} {now number : Nat}

theorem mono (h : Placed now c) (hle : now ≤ number) : Placed number c where
  openTags o ho := ⟨(h.openTags o ho).1, (h.openTags o ho).2.trans hle⟩
  stack := h.stack
  faults d hd := by
    obtain ⟨hpos, hnow, hk⟩ := h.faults d hd
    exact ⟨hpos, hnow.trans hle, hk⟩
  sorted := h.sorted
  apart := h.apart
  around := h.around

theorem withLines (h : Placed now c) (k : Nat) : Placed now (c.withLines k) :=
  ⟨h.openTags, h.stack, h.faults, h.sorted, h.apart, h.around⟩

/-! ### One tag -/

theorem push (h : Placed now c) {o : OpenTag} (hnow : now ≤ o.line) (hpos : 1 ≤ o.line) :
    Placed o.line { c with stack := o :: c.stack } := by
  refine ⟨?_, ?_, (h.mono hnow).faults, h.sorted, h.apart, ?_⟩
  · intro o' ho'
    rcases List.mem_cons.mp ho' with rfl | ho'
    · exact ⟨hpos, le_rfl⟩
    · exact (h.mono hnow).openTags o' ho'
  · refine List.pairwise_cons.mpr ⟨fun o' ho' => ?_, h.stack⟩
    exact ((h.openTags o' ho').2).trans hnow
  · intro o' ho' d hd k hk
    rcases List.mem_cons.mp ho' with rfl | ho'
    · exact Or.inr ((h.faults d hd).2.1.trans hnow)
    · exact h.around o' ho' d hd k hk

theorem pop (h : Placed now c) {o : OpenTag} {s : List OpenTag} (hs : c.stack = o :: s) :
    Placed now { c with stack := s } := by
  have hmem : ∀ o' ∈ s, o' ∈ c.stack := fun o' ho' => by rw [hs]; exact List.mem_cons_of_mem o ho'
  have hstack := h.stack
  rw [hs] at hstack
  exact ⟨fun o' ho' => h.openTags o' (hmem o' ho'), hstack.of_cons, h.faults, h.sorted, h.apart,
    fun o' ho' => h.around o' (hmem o' ho')⟩

/-- A diagnostic may be added if it names a line already read that no open tag was opened after, and
that lies outside of the mismatches so far. -/
theorem note (h : Placed now c) {d : Diagnostic} (hnow : now ≤ d.line) (hpos : 1 ≤ d.line)
    (hk : ∀ k ∈ d.openedAt?, 1 ≤ k ∧ k ≤ d.line ∧ (∀ o ∈ c.stack, o.line ≤ k) ∧
      ∀ e ∈ c.diagnostics.toList, ∀ j ∈ e.openedAt?, e.line ≤ k ∨ k ≤ j) :
    Placed d.line { c with diagnostics := c.diagnostics.push d } := by
  have h' := h.mono hnow
  refine ⟨h'.openTags, h.stack, ?_, ?_, ?_, ?_⟩
  · intro e he
    rw [Array.toList_push, List.mem_append, List.mem_singleton] at he
    rcases he with he | rfl
    · exact h'.faults e he
    · exact ⟨hpos, le_rfl, fun k hmem => ⟨(hk k hmem).1, (hk k hmem).2.1⟩⟩
  · rw [Array.toList_push, List.pairwise_append]
    refine ⟨h.sorted, List.pairwise_singleton _ _, fun e he e' he' => ?_⟩
    rw [List.mem_singleton.mp he']
    exact (h'.faults e he).2.1
  · rw [Array.toList_push, List.pairwise_append]
    refine ⟨h.apart, List.pairwise_singleton _ _, fun e he e' he' => ?_⟩
    rw [List.mem_singleton.mp he']
    intro j hj k hmem
    exact (hk k hmem).2.2.2 e he j hj
  · intro o ho e he k hmem
    rw [Array.toList_push, List.mem_append, List.mem_singleton] at he
    rcases he with he | rfl
    · exact h.around o ho e he k hmem
    · exact Or.inl ((hk k hmem).2.2.1 o ho)

/-- The mismatch at which a tag closes the innermost open tag. -/
theorem close (h : Placed now c) {o : OpenTag} {s : List OpenTag} {t : Tag}
    (hs : c.stack = o :: s) (hnow : now ≤ t.line) (hpos : 1 ≤ t.line) :
    Placed t.line
      { c with stack := s, diagnostics := c.diagnostics ++ c.policy.complaint o t } := by
  have hpop := h.pop hs
  have ho : o ∈ c.stack := by rw [hs]; exact List.mem_cons_self
  have hbelow := h.stack
  rw [hs, List.pairwise_cons] at hbelow
  unfold Policy.complaint
  split
  · have hnote := hpop.note (d := ⟨t.line, .mismatch o.name o.line t.name⟩) hnow hpos ?_
    · simpa using hnote
    · intro k hk
      obtain rfl : o.line = k := by simpa [Diagnostic.openedAt?] using hk
      refine ⟨(h.openTags o ho).1, (h.openTags o ho).2.trans hnow, hbelow.1, ?_⟩
      intro e he j hj
      exact (h.around o ho e he j hj).symm
  · simpa using hpop.mono hnow

/-- **One tag keeps the lines in place**, if it stands on the present line or a later one. -/
theorem apply (h : Placed now c) {t : Tag} (hnow : now ≤ t.line) (hpos : 1 ≤ t.line) :
    Placed t.line (c.apply t) := by
  rcases apply_cases c t with ⟨-, e⟩ | ⟨-, -, e⟩ | ⟨-, -, -, e⟩ | ⟨o, s, -, -, hs, e⟩
  · rw [e]
    exact h.mono hnow
  · rw [e]
    exact h.push (o := OpenTag.ofTag t) hnow hpos
  · rw [e]
    have hnote := h.note (d := ⟨t.line, .unexpectedClosing t.name⟩) hnow hpos (by
      intro k hk
      simp [Diagnostic.openedAt?] at hk)
    exact ⟨hnote.openTags, hnote.stack, hnote.faults, hnote.sorted, hnote.apart, hnote.around⟩
  · rw [e]
    exact h.close hs hnow hpos

/-! ### All tags -/

/-- The tags of the next line keep the lines in place. -/
theorem run (h : Placed now c) {ts : List Tag} (hts : ∀ t ∈ ts, t.line = number)
    (hnow : now ≤ number) (hpos : 1 ≤ number) : Placed number (c.run ts) := by
  induction ts generalizing c now with
  | nil => exact h.mono hnow
  | cons t ts ih =>
    have ht : t.line = number := hts t List.mem_cons_self
    have happly := h.apply (t := t) (by rw [ht]; exact hnow) (by rw [ht]; exact hpos)
    rw [ht] at happly
    exact ih happly (fun u hu => hts u (List.mem_cons_of_mem t hu)) le_rfl

/-- **All lines keep the lines in place**, if the numbers of the lines and the count begin
together. -/
theorem feedAll (h : Placed c.linesScanned c) (hn : number = c.linesScanned + 1)
    (lines : List String) :
    Placed (c.feedAll number lines).linesScanned (c.feedAll number lines) := by
  induction lines generalizing c number with
  | nil => exact h
  | cons line lines ih =>
    rcases hc : c.halted with _ | _
    · have hcount : (c.feed number line).linesScanned = number := by
        rw [feed_of_not_halted hc, hn]
        rfl
      have hline : Placed number (c.feed number line) := by
        rw [feed_of_not_halted hc]
        exact (h.run (fun t => line_of_mem_tagsOfLine) (by omega) (by omega)).withLines _
      rw [Checker.feedAll]
      exact ih (by rw [hcount]; exact hline) (by rw [hcount])
    · rw [feedAll_of_halted hc]
      exact h

/-! ### The report -/

section Finish
variable (h : Placed now c) (hc : c.OnlyClosing)
include h hc

theorem pairwise_unclosed : c.finish.unclosed.Pairwise fun d d' => d.line ≤ d'.line := by
  rw [hc.unclosed_finish]
  split
  · exact .nil
  · rw [List.pairwise_map, Checker.openTags, List.pairwise_reverse]
    exact h.stack

/-- A diagnostic of the report is one of the run, or a tag left open, which closes nothing. -/
theorem mem_diagnostics_finish {d : Diagnostic} (hd : d ∈ c.finish.diagnostics) :
    d ∈ c.diagnostics.toList ∨ d.openedAt? = none ∧ 1 ≤ d.line ∧ d.line ≤ now := by
  rw [hc.diagnostics_finish, List.mem_append, hc.closingFaults_finish] at hd
  refine hd.imp_right fun hu => ?_
  obtain ⟨o, ho, rfl⟩ := hc.exists_of_mem_unclosed hu
  exact ⟨rfl, h.openTags o ho⟩

theorem pairwise_apart_finish : c.finish.diagnostics.Pairwise Diagnostic.Apart := by
  have hnone : ∀ d ∈ c.finish.unclosed, d.openedAt? = none := by
    intro d hd
    obtain ⟨o, -, rfl⟩ := hc.exists_of_mem_unclosed hd
    rfl
  rw [hc.diagnostics_finish, hc.closingFaults_finish, List.pairwise_append]
  refine ⟨h.apart, List.pairwise_of_forall_mem_list fun d _ u hu => ?_, fun d _ u hu => ?_⟩
  · intro k _ k' hk'
    rw [hnone u hu] at hk'
    cases hk'
  · intro k _ k' hk'
    rw [hnone u hu] at hk'
    cases hk'

theorem around_unclosed {u m : Diagnostic} (hu : u ∈ c.finish.unclosed)
    (hm : m ∈ c.finish.diagnostics) {k : Nat} (hk : k ∈ m.openedAt?) :
    u.line ≤ k ∨ m.line ≤ u.line := by
  obtain ⟨o, ho, rfl⟩ := hc.exists_of_mem_unclosed hu
  rcases h.mem_diagnostics_finish hc hm with hm | ⟨hnone, -⟩
  · exact h.around o ho m hm k hk
  · rw [hnone] at hk
    cases hk

end Finish

end Placed

end Checker

/-- **The lines of a report fit together.**  All have been read, and a mismatch names an opening tag
that stands on no later line.  The faults of closing tags are in order of their lines and stand
before the tags left open, which are in order, too.  The stretches of two mismatches do not cross,
and a tag left open encloses a mismatch or was opened after it. -/
theorem checkLines_positions (lines : List String) (p : Policy) :
    let r := checkLines lines p
    (∀ d ∈ r.diagnostics, 1 ≤ d.line ∧ d.line ≤ r.linesScanned ∧
      ∀ k ∈ d.openedAt?, 1 ≤ k ∧ k ≤ r.linesScanned ∧ k ≤ d.line) ∧
    r.diagnostics = r.closingFaults ++ r.unclosed ∧
    (r.closingFaults.Pairwise fun d d' => d.line ≤ d'.line) ∧
    (r.unclosed.Pairwise fun d d' => d.line ≤ d'.line) ∧
    (r.diagnostics.Pairwise fun m m' =>
      ∀ k ∈ m.openedAt?, ∀ k' ∈ m'.openedAt?, m.line ≤ k' ∨ k' ≤ k) ∧
    ∀ u ∈ r.unclosed, ∀ m ∈ r.diagnostics, ∀ k ∈ m.openedAt?, u.line ≤ k ∨ m.line ≤ u.line := by
  intro r
  have hr : r = ((Checker.new p).feedAll 1 lines).finish := checkLines_eq lines p
  have h : ((Checker.new p).feedAll 1 lines).Placed r.linesScanned := by
    rw [hr]
    exact (Checker.placed_new p).feedAll rfl lines
  have hc := (Checker.onlyClosing_new p).feedAll 1 lines
  rw [hr] at h ⊢
  refine ⟨fun d hd => ?_, hc.diagnostics_finish, ?_, h.pairwise_unclosed hc,
    h.pairwise_apart_finish hc, fun u hu m hm k hk => h.around_unclosed hc hu hm hk⟩
  · rcases h.mem_diagnostics_finish hc hd with hd | ⟨hnone, hpos, hle⟩
    · obtain ⟨hpos, hle, hk⟩ := h.faults d hd
      exact ⟨hpos, hle, fun k hmem => ⟨(hk k hmem).1, (hk k hmem).2.trans hle, (hk k hmem).2⟩⟩
    · refine ⟨hpos, hle, fun k hk => ?_⟩
      rw [hnone] at hk
      cases hk
  · rw [hc.closingFaults_finish]
    exact h.sorted

-- the second mismatch encloses the first one, and the tag left open encloses both
example : checkLines ["<a>", "<b>", "<i></u>", "</i><p>", "</p>"] .all =
    ⟨[⟨3, .mismatch "i" 3 "u"⟩, ⟨4, .mismatch "b" 2 "i"⟩, ⟨1, .unclosed "a"⟩], false, 5⟩ := by
  decide +kernel

end TagNesting
