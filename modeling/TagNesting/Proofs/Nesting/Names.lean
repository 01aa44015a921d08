import TagNesting.Proofs.Nesting.Run
import TagNesting.Proofs.Tag.Numbering

/-!
# The names in a report

A report names no tag that its lines do not hold.  So whatever is true of the names of all tags is
true of the names on the stack and of those that the diagnostics tell (`Checker.Named.run`), and in
a report on lines they are all made of word characters (`isWord_of_mem_checkLines`).
-/

namespace TagNesting

open TagNesting.Text.WordClass

/-- The names that a fault tells. -/
def Fault.names : Fault → List String
  | .unexpectedClosing name => [name]
  | .mismatch expected _ found => [expected, found]
  | .unclosed name => [name]

/-- The name is made of word characters. -/
def IsWord (name : String) : Prop := ∀ c ∈ name.toList, isWordChar c = true

namespace Checker

/-- **All names in a checker belong to a class.** -/
structure Named (P : String → Prop) (c : Checker) : Prop where
  stack : ∀ o ∈ c.stack, P o.name
  faults : ∀ d ∈ c.diagnostics.toList, ∀ name ∈ d.fault.names, P name

theorem named_new (P : String → Prop) (p : Policy) : Named P (new p) := by
  constructor <;> simp [new]

namespace Named

variable {P : String → Prop} {c : Checker} {t : Tag}

theorem complaint {p : Policy} {o : OpenTag} (ho : P o.name) (ht : P t.name) :
    ∀ d ∈ p.complaint o t, ∀ name ∈ d.fault.names, P name := by
  intro d hd name hname
  unfold Policy.complaint at hd
  split at hd
  · rw [List.mem_singleton] at hd
    subst hd
    simp only [Fault.names, List.mem_cons, List.not_mem_nil, or_false] at hname
    rcases hname with rfl | rfl
    · exact ho
    · exact ht
  · exact absurd hd List.not_mem_nil

theorem apply (h : Named P c) (ht : P t.name) : Named P (c.apply t) := by
  rcases apply_cases c t with ⟨-, e⟩ | ⟨-, -, e⟩ | ⟨-, -, -, e⟩ | ⟨o, s, -, -, hs, e⟩
  · rw [e]
    exact h
  · rw [e]
    refine ⟨fun o ho => ?_, h.faults⟩
    rcases List.mem_cons.mp ho with rfl | ho
    · exact ht
    · exact h.stack o ho
  · rw [e]
    refine ⟨h.stack, fun d hd name hname => ?_⟩
    rw [Array.toList_push, List.mem_append, List.mem_singleton] at hd
    rcases hd with hd | rfl
    · exact h.faults d hd name hname
    · rw [List.mem_singleton.mp hname]
      exact ht
  · rw [e]
    have hstack := h.stack
    rw [hs] at hstack
    refine ⟨fun o' ho' => hstack o' (List.mem_cons_of_mem o ho'), fun d hd => ?_⟩
    rw [Array.toList_appendList, List.mem_append] at hd
    rcases hd with hd | hd
    · exact h.faults d hd
    · exact complaint (hstack o List.mem_cons_self) ht d hd

theorem run (h : Named P c) {ts : List Tag} (hts : ∀ t ∈ ts, P t.name) : Named P (c.run ts) := by
  induction ts generalizing c with
  | nil => exact h
  | cons t ts ih =>
    exact ih (h.apply (hts t List.mem_cons_self)) fun u hu => hts u (List.mem_cons_of_mem t hu)

theorem finish (h : Named P c) :
    ∀ d ∈ c.finish.diagnostics, ∀ name ∈ d.fault.names, P name := by
  intro d hd name hname
  unfold Checker.finish at hd
  rw [List.mem_append] at hd
  rcases hd with hd | hd
  · exact h.faults d hd name hname
  · split at hd
    · exact absurd hd List.not_mem_nil
    · obtain ⟨o, ho, rfl⟩ := List.mem_map.mp hd
      rw [List.mem_singleton.mp hname]
      exact h.stack o (List.mem_reverse.mp ho)

end Named

end Checker

theorem isWord_of_mem_tagsFrom {number : Nat} {lines : List String} {t : Tag}
    (ht : t ∈ tagsFrom number lines) : IsWord t.name := by
  obtain ⟨l, -, hl⟩ := List.mem_flatMap.mp ht
  exact isWordChar_of_mem_name hl

/-- **The names in a report are made of word characters.** -/
theorem isWord_of_mem_checkLines {lines : List String} {p : Policy} {d : Diagnostic}
    (hd : d ∈ (checkLines lines p).diagnostics) : ∀ name ∈ d.fault.names, IsWord name := by
  rw [checkLines_diagnostics] at hd
  exact ((Checker.named_new IsWord p).run fun t => isWord_of_mem_tagsFrom).finish d hd

end TagNesting
