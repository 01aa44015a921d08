import Mathlib.Data.List.Basic
import TagNesting.Proofs.Nesting.Run
import TagNesting.Report.Text

/-!
# How a written report ends

The written report ends with the line `All tags balanced!` iff nothing was left open
(`Report.endsWithLine_toText_iff`).  No other last line can be mistaken for it: that of a halted
check ends in the name of a tag, which has no exclamation mark in it, and that of a check with tags
left open ends in a digit.
-/

namespace TagNesting

open TagNesting.Text

/-- **A text ends with a line**: its last characters are those of the line and a line feed, and
these follow a line feed or nothing. -/
def EndsWithLine (text line : String) : Prop :=
  ∃ before : List Char, text.toList = before ++ (line.toList ++ ['\n']) ∧
    (before = [] ∨ before.getLast? = some '\n')

theorem toList_unlines_concat (lines : List String) (line : String) :
    (unlines (lines ++ [line])).toList = (unlines lines).toList ++ (line.toList ++ ['\n']) := by
  simp [unlines]

theorem endsWithLine_unlines (lines : List String) (line : String) :
    EndsWithLine (unlines (lines ++ [line])) line := by
  refine ⟨(unlines lines).toList, toList_unlines_concat lines line, ?_⟩
  rcases List.eq_nil_or_concat' lines with rfl | ⟨before, last, rfl⟩
  · exact Or.inl (by simp [unlines])
  · exact Or.inr (by rw [toList_unlines_concat]; simp)

theorem not_endsWithLine_unlines {lines : List String} {last line : String} {c d : Char}
    (hc : last.toList.getLast? = some c) (hd : line.toList.getLast? = some d) (hne : c ≠ d) :
    ¬ EndsWithLine (unlines (lines ++ [last])) line := by
  rintro ⟨before, h, -⟩
  rw [toList_unlines_concat, ← List.append_assoc, ← List.append_assoc] at h
  have hlast := congrArg List.getLast? (List.append_cancel_right h)
  rw [List.getLast?_append, List.getLast?_append, hc, hd] at hlast
  exact hne (Option.some.inj hlast)

theorem getLast?_toList_append (s t : String) :
    (s ++ t).toList.getLast? = t.toList.getLast?.or s.toList.getLast? := by
  rw [String.toList_append, List.getLast?_append]

/-- A decimal number ends in a digit. -/
theorem getLast?_toString (n : Nat) :
    ∃ c, (toString n).toList.getLast? = some c ∧ c.isDigit = true := by
  have hne : (toString n).toList ≠ [] := by
    rw [Nat.toString_eq_repr, Nat.toList_repr]
    exact Nat.toDigits_ne_nil
  refine ⟨_, List.getLast?_eq_some_getLast hne, ?_⟩
  have hmem := List.getLast_mem hne
  generalize (toString n).toList.getLast hne = c at hmem
  rw [Nat.toString_eq_repr, Nat.toList_repr] at hmem
  exact Nat.isDigit_of_mem_toDigits (by decide) (by decide) hmem

namespace Report

theorem balancedLine_getLast? : balancedLine.toList.getLast? = some '!' := by decide

theorem not_endsWithLine_of_unclosed {r : Report} (hh : r.halted = false) (hu : r.unclosed ≠ []) :
    ¬ EndsWithLine r.toText balancedLine := by
  rcases List.eq_nil_or_concat' r.unclosed with h | ⟨ds, d, hd⟩
  · exact absurd h hu
  obtain ⟨c, hc, hdigit⟩ := getLast?_toString d.line
  have hkind : d.isUnclosed = true := by
    have hmem : d ∈ r.unclosed := by rw [hd]; simp
    exact (List.mem_filter.mp hmem).2
  have hlast : ("  " ++ d.message).toList.getLast? = some c := by
    obtain ⟨line, name | ⟨expected, openedAt, found⟩ | name⟩ := d
    · exact Bool.noConfusion hkind
    · exact Bool.noConfusion hkind
    · unfold Diagnostic.message
      rw [getLast?_toList_append, getLast?_toList_append, hc]
      rfl
  have htext : r.textLines =
      (r.closingFaults.map (·.message) ++ unclosedHeading :: ds.map fun d => "  " ++ d.message) ++
        ["  " ++ d.message] := by
    have hne : r.unclosed.isEmpty = false := by simpa using hu
    unfold textLines trailer
    rw [hh, hne, hd]
    simp
  unfold toText
  rw [htext]
  refine not_endsWithLine_unlines hlast balancedLine_getLast? ?_
  rintro rfl
  exact absurd hdigit (by decide)

theorem not_endsWithLine_of_halted {r : Report} (hh : r.halted = true) {ds : List Diagnostic}
    {line : Nat} {name : String} (hd : r.closingFaults = ds ++ [⟨line, .unexpectedClosing name⟩])
    (hname : '!' ∉ name.toList) : ¬ EndsWithLine r.toText balancedLine := by
  have htext : r.textLines = ds.map (·.message) ++
      [Diagnostic.message ⟨line, .unexpectedClosing name⟩] := by
    unfold textLines trailer
    rw [hh, hd]
    simp
  obtain ⟨c, hc, hne⟩ : ∃ c, (Diagnostic.message ⟨line, .unexpectedClosing name⟩).toList.getLast? =
      some c ∧ c ≠ '!' := by
    have hspace : ": Unexpected closing tag ".toList.getLast? = some ' ' := by decide
    unfold Diagnostic.message
    rw [getLast?_toList_append, getLast?_toList_append, hspace]
    rcases hn : name.toList.getLast? with _ | c
    · exact ⟨' ', rfl, by decide⟩
    · refine ⟨c, rfl, ?_⟩
      rintro rfl
      exact hname (List.mem_of_getLast? hn)
  unfold toText
  rw [htext]
  exact not_endsWithLine_unlines hc balancedLine_getLast? hne

/-- **The last line says whether anything was left open**, in every report whose halt is due to a
closing tag without an exclamation mark in its name. -/
theorem endsWithLine_toText_iff {r : Report}
    (hhalt : r.halted = true → ∃ ds line name,
      r.closingFaults = ds ++ [⟨line, .unexpectedClosing name⟩] ∧ '!' ∉ name.toList) :
    EndsWithLine r.toText balancedLine ↔ r.stackEmptied = true := by
  rw [stackEmptied_iff]
  constructor
  · intro h
    rcases hh : r.halted with _ | _
    · refine ⟨rfl, ?_⟩
      by_contra hu
      exact not_endsWithLine_of_unclosed hh hu h
    · obtain ⟨ds, line, name, hd, hname⟩ := hhalt hh
      exact absurd h (not_endsWithLine_of_halted hh hd hname)
  · rintro ⟨hh, hu⟩
    have htrailer : r.trailer = [balancedLine] := by
      unfold trailer
      rw [hh, hu]
      rfl
    unfold toText textLines
    rw [htrailer]
    exact endsWithLine_unlines _ _

end Report

end TagNesting
