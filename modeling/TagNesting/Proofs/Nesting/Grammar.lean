import Mathlib.Data.List.Induction
import TagNesting.Proofs.Nesting.Levels

/-!
# The nesting grammar

`WellNested admits` is the language of the grammar

    S ::= (nothing) | selfClosing S | opening a S closing b S

in which a pair of names `a`, `b` may be joined only if `admits a b`.  A policy admits the pairs
that it does not report (`Policy.Admits`).

* `run_wellNested`: a word of the grammar leaves every checker that has not halted as it was.
* `levels_of_silent`: after a run without a halt and without a diagnostic, the tags fall into levels
  whose words are words of the grammar.
* `isBalanced_checkDocument_iff`: a document is reported balanced iff its tags are such a word.
-/

namespace TagNesting

open TagNesting.Text

/-! ### The grammar -/

/-- **Well-nested words of tags**, with the pairs of names that `admits` allows. -/
inductive WellNested (admits : String → String → Prop) : List Tag → Prop
  | empty : WellNested admits []
  | selfClosing {t : Tag} {rest : List Tag} :
      t.kind = .selfClosing → WellNested admits rest → WellNested admits (t :: rest)
  | pair {a b : Tag} {inner rest : List Tag} :
      a.kind = .opening → b.kind = .closing → admits a.name b.name →
        WellNested admits inner → WellNested admits rest →
          WellNested admits (a :: (inner ++ b :: rest))

/-- The pairs of names about which a policy does not complain. -/
def Policy.Admits (p : Policy) (expected found : String) : Prop :=
  expected = found ∨ p.reports expected found = false

namespace WellNested

variable {admits : String → String → Prop} {u v : List Tag} {a b t : Tag}

theorem append (hu : WellNested admits u) (hv : WellNested admits v) :
    WellNested admits (u ++ v) := by
  induction hu with
  | empty => exact hv
  | selfClosing ht _ ih => exact .selfClosing ht ih
  | pair ha hb hab hi _ _ ih =>
    rw [List.cons_append, List.append_assoc, List.cons_append]
    exact .pair ha hb hab hi ih

theorem concatenative (admits : String → String → Prop) : Concatenative (WellNested admits) where
  nil := .empty
  append := .append

theorem singleton (ht : t.kind = .selfClosing) : WellNested admits [t] := .selfClosing ht .empty

theorem enclose (ha : a.kind = .opening) (hb : b.kind = .closing) (hab : admits a.name b.name)
    (hu : WellNested admits u) : WellNested admits (a :: (u ++ [b])) :=
  .pair ha hb hab hu .empty

/-- The words depend only on which pairs of names are admitted. -/
theorem congr {admits' : String → String → Prop} (h : ∀ x y, admits x y ↔ admits' x y) :
    WellNested admits u ↔ WellNested admits' u := by
  have he : admits = admits' := by
    funext x y
    exact propext (h x y)
  rw [he]

end WellNested

theorem Policy.complaint_eq_nil_iff (p : Policy) (o : OpenTag) (t : Tag) :
    p.complaint o t = [] ↔ p.Admits o.name t.name := by
  unfold Policy.complaint Policy.Admits
  split
  · next h => simp [h]
  · next h =>
    rw [not_and, Bool.not_eq_true] at h
    exact ⟨fun _ => or_iff_not_imp_left.mpr h, fun _ => rfl⟩

theorem Policy.admits_all (x y : String) : Policy.all.Admits x y ↔ x = y := by
  simp [Policy.Admits, Policy.reports]

theorem Policy.admits_divOnly (x y : String) :
    Policy.divOnly.Admits x y ↔ x = y ∨ (x ≠ "div" ∧ y ≠ "div") := by
  simp [Policy.Admits, Policy.reports, Policy.distinguished]

/-! ### A word of the grammar changes nothing -/

/-- **A well-nested word leaves the checker as it was.** -/
theorem run_wellNested {c : Checker} (hc : c.halted = false) {ts : List Tag}
    (h : WellNested c.policy.Admits ts) : c.run ts = c := by
  generalize hp : c.policy.Admits = admits at h
  induction h generalizing c with
  | empty => rfl
  | selfClosing ht _ ih => rw [Checker.run_cons, Checker.apply_selfClosing c ht, ih hc hp]
  | @pair a b inner rest ha hb hab _ _ ihi ihr =>
    -- the word inside the pair runs above the tag that opens it
    let above : Checker := { c with stack := OpenTag.ofTag a :: c.stack }
    have hin : above.run inner = above := ihi (c := above) hc hp
    have hsilent : c.policy.complaint (OpenTag.ofTag a) b = [] := by
      rw [Policy.complaint_eq_nil_iff, hp]
      exact hab
    have hclose : above.apply b = c := by
      rw [Checker.apply_closing_cons (c := above) hc hb rfl]
      show Checker.mk c.policy c.stack (c.diagnostics ++ c.policy.complaint _ b) _ _ = c
      rw [hsilent, Array.appendList_nil]
    rw [Checker.run_cons, Checker.apply_opening hc ha, Checker.run_append, Checker.run_cons]
    rw [hin, hclose, ihr hc hp]

/-! ### A silent run has well-nested levels -/

/-- **The levels of a silent run.**  After a run without a halt and without a diagnostic, the stack
holds the open tags, and the words between them are well-nested. -/
theorem levels_of_silent {p : Policy} {ts : List Tag}
    (hh : ((Checker.new p).run ts).halted = false)
    (hd : ((Checker.new p).run ts).diagnostics.toList = []) :
    ∃ s, Levels (WellNested p.Admits) s ts ∧ ((Checker.new p).run ts).stack = stackOf s := by
  have hW := WellNested.concatenative p.Admits
  -- induction on the last tag: all but that one make a silent run too
  induction ts using List.reverseRecOn with
  | nil => exact ⟨[], .ground .empty, rfl⟩
  | append_singleton ts t ih =>
    obtain ⟨hh', hd'⟩ := Checker.silent_of_silent_append hh hd
    obtain ⟨s, hs, hstack⟩ := ih hh' hd'
    rw [Checker.run_concat] at hh hd ⊢
    rcases Checker.apply_cases ((Checker.new p).run ts) t with
      ⟨hc | ht, e⟩ | ⟨-, ht, e⟩ | ⟨-, -, -, e⟩ | ⟨o, s', -, ht, hs', e⟩
    · rw [hc] at hh'
      exact Bool.noConfusion hh'
    · rw [e]
      exact ⟨s, hs.append hW (.singleton ht), hstack⟩
    · rw [e]
      exact ⟨(ts.length, t) :: s, hs.push hW ht, by rw [hstack]; rfl⟩
    · rw [e] at hh
      exact Bool.noConfusion hh
    · rw [e] at hd ⊢
      rw [Array.toList_appendList, List.append_eq_nil_iff, Checker.run_policy] at hd
      rw [hstack] at hs'
      obtain ⟨⟨i, a⟩, s, rfl, rfl, rfl⟩ := List.map_eq_cons_iff.mp hs'
      have hab : p.Admits a.name t.name := (p.complaint_eq_nil_iff _ _).mp hd.2
      exact ⟨s, hs.pop hW fun ha hw => .enclose ha ht hab hw, rfl⟩

/-! ### Balanced documents -/

theorem isBalanced_finish_iff (c : Checker) :
    c.finish.isBalanced = true ↔
      c.halted = false ∧ c.diagnostics.toList = [] ∧ c.stack = [] := by
  unfold Report.isBalanced Checker.finish Checker.openTags
  rcases hc : c.halted with _ | _
  · simp
  · simp

theorem isBalanced_checkLines_iff (lines : List String) (p : Policy) :
    (checkLines lines p).isBalanced = true ↔ WellNested p.Admits (tagsFrom 1 lines) := by
  have hrun : (checkLines lines p).isBalanced =
      ((Checker.new p).run (tagsFrom 1 lines)).finish.isBalanced := by
    unfold Report.isBalanced
    rw [checkLines_halted, checkLines_diagnostics]
    rfl
  rw [hrun, isBalanced_finish_iff]
  constructor
  · rintro ⟨hh, hd, hstack⟩
    obtain ⟨s, hs, he⟩ := levels_of_silent hh hd
    rw [hstack] at he
    obtain rfl : s = [] := List.map_eq_nil_iff.mp he.symm
    exact hs.of_nil
  · intro h
    rw [run_wellNested (c := Checker.new p) rfl h]
    exact ⟨rfl, rfl, rfl⟩

/-- **Balanced documents are the well-nested ones.**  A document is reported balanced iff its tags
form a word of the grammar in which every pair has equal names or is one that the policy does not
report: under `all` every pair has equal names, and under `divOnly` every pair has equal names or
neither name is `div`. -/
theorem isBalanced_checkDocument_iff (document : String) :
    (∀ p : Policy, (checkDocument document p).isBalanced = true ↔
      WellNested (fun a b => a = b ∨ p.reports a b = false) (tagsOfDocument document)) ∧
    ((checkDocument document .all).isBalanced = true ↔
      WellNested (fun a b => a = b) (tagsOfDocument document)) ∧
    ((checkDocument document .divOnly).isBalanced = true ↔
      WellNested (fun a b => a = b ∨ (a ≠ "div" ∧ b ≠ "div")) (tagsOfDocument document)) := by
  have main := isBalanced_checkLines_iff (linesOf document)
  refine ⟨main, ?_, ?_⟩
  · exact (main .all).trans (WellNested.congr Policy.admits_all)
  · exact (main .divOnly).trans (WellNested.congr Policy.admits_divOnly)

end TagNesting
