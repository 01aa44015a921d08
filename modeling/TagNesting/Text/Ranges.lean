/-!
# Ranges of code points

A class of characters is a table of closed ranges of code points.  Membership (`inRanges`) walks the
table only as far as the code point; where the ranges increase and do not touch (`Increasing`), that
loses nothing (`inRanges_iff`).  `increasing` checks a table by its neighbours.
-/

namespace TagNesting.Text

/-- A closed range of code points. -/
structure Range where
  first : Nat
  last : Nat
  deriving DecidableEq

/-- Whether a code point lies in one of the sorted ranges; the walk ends at the first range that
begins after it. -/
def inRanges (n : Nat) : List Range → Bool
  | [] => false
  | r :: rs => if n < r.first then false else if n ≤ r.last then true else inRanges n rs

/-- Ranges that increase and do not touch. -/
def Increasing : List Range → Prop
  | [] => True
  | r :: rs => r.first ≤ r.last ∧ (∀ s ∈ rs, r.last < s.first) ∧ Increasing rs

theorem inRanges_iff (n : Nat) : ∀ rs : List Range, Increasing rs →
    (inRanges n rs = true ↔ ∃ r ∈ rs, r.first ≤ n ∧ n ≤ r.last)
  | [], _ => by simp [inRanges]
  | r :: rs, ⟨hle, hlt, hrs⟩ => by
    have ih := inRanges_iff n rs hrs
    by_cases h1 : n < r.first
    · have hnone : ∀ s ∈ rs, ¬ (s.first ≤ n ∧ n ≤ s.last) := by
        intro s hs h
        have := hlt s hs
        omega
      simp only [inRanges, if_pos h1, Bool.false_eq_true, List.mem_cons, false_iff]
      rintro ⟨s, hs | hs, h⟩
      · subst hs; omega
      · exact hnone s hs h
    · by_cases h2 : n ≤ r.last
      · simp only [inRanges, if_neg h1, if_pos h2, true_iff]
        exact ⟨r, List.mem_cons_self, by omega, h2⟩
      · simp only [inRanges, if_neg h1, if_neg h2, ih, List.mem_cons]
        constructor
        · rintro ⟨s, hs, h⟩
          exact ⟨s, Or.inr hs, h⟩
        · rintro ⟨s, hs | hs, h⟩
          · subst hs; omega
          · exact ⟨s, hs, h⟩

/-- The check of `Increasing` by neighbours. -/
def increasing : List Range → Bool
  | [] => true
  | [r] => r.first ≤ r.last
  | r :: s :: rs => r.first ≤ r.last && (r.last < s.first && increasing (s :: rs))

theorem Increasing.of_increasing : ∀ rs : List Range, increasing rs = true → Increasing rs
  | [], _ => trivial
  | [r], h => ⟨by simpa [increasing] using h, by simp, trivial⟩
  | r :: s :: rs, h => by
    simp only [increasing, Bool.and_eq_true, decide_eq_true_eq] at h
    obtain ⟨hle, hlt, hrs⟩ := h
    have ih := Increasing.of_increasing (s :: rs) hrs
    refine ⟨hle, ?_, ih⟩
    intro u hu
    rcases List.mem_cons.mp hu with rfl | hu
    · exact hlt
    · have h1 := ih.1
      have h2 := ih.2.1 u hu
      omega

end TagNesting.Text
