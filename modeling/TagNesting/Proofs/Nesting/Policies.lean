import TagNesting.Proofs.Nesting.Run

/-!
# One check under two policies

A policy decides what is reported and nothing else.  `Checker.under p c` is a state `c` of a check
that reports every mismatch, as it would be under the policy `p`: the same open tags, halt and count
of lines, and of the diagnostics those that `p` keeps.  Every step goes in step with that
(`Checker.apply_under`), also where one of the two checks reports a mismatch and the other closes
the open tag silently.  So the report under `p` is the report on all mismatches with some of them
left out (`checkLines_under`).
-/

namespace TagNesting

open TagNesting.Text

/-- Whether a diagnostic of a check that reports all mismatches stands under a policy too. -/
def Policy.keeps (p : Policy) (d : Diagnostic) : Bool :=
  match d.fault with
  | .mismatch expected _ found => p.reports expected found
  | .unexpectedClosing _ => true
  | .unclosed _ => true

/-- A mismatch in which neither name is `div`. -/
def Diagnostic.isForeign (d : Diagnostic) : Bool :=
  match d.fault with
  | .mismatch expected _ found => expected != "div" && found != "div"
  | .unexpectedClosing _ => false
  | .unclosed _ => false

theorem Policy.keeps_divOnly (d : Diagnostic) : Policy.divOnly.keeps d = !d.isForeign := by
  obtain ⟨line, _ | ⟨expected, openedAt, found⟩ | _⟩ := d
  · rfl
  · simp [Policy.keeps, Policy.reports, Policy.distinguished, Diagnostic.isForeign, bne]
  · rfl

theorem Policy.keeps_of_isUnclosed (p : Policy) {d : Diagnostic} (h : d.isUnclosed = true) :
    p.keeps d = true := by
  obtain ⟨line, _ | _ | _⟩ := d
  · exact Bool.noConfusion h
  · exact Bool.noConfusion h
  · rfl

/-- What a policy says about a pair is what it keeps of the full complaint. -/
theorem Policy.complaint_eq_filter (p : Policy) (o : OpenTag) (t : Tag) :
    p.complaint o t = (Policy.all.complaint o t).filter p.keeps := by
  unfold Policy.complaint
  by_cases hn : o.name = t.name
  · simp [hn]
  · by_cases hr : p.reports o.name t.name = true
    · simp [hn, hr, Policy.reports.eq_2, Policy.keeps]
    · simp [hn, hr, Policy.reports.eq_2, Policy.keeps]

namespace Checker

/-- **A state of a check that reports all mismatches, as it is under the policy `p`.** -/
def under (p : Policy) (c : Checker) : Checker :=
  { c with policy := p, diagnostics := c.diagnostics.filter p.keeps }

variable {c : Checker}

theorem apply_under (p : Policy) (hall : c.policy = .all) (t : Tag) :
    (c.under p).apply t = (c.apply t).under p := by
  rcases apply_cases c t with ⟨hc | ht, e⟩ | ⟨hc, ht, e⟩ | ⟨hc, ht, hs, e⟩ | ⟨o, s, hc, ht, hs, e⟩
  · rw [e]
    exact apply_of_halted (c := c.under p) hc t
  · rw [e]
    exact apply_selfClosing _ ht
  · rw [e]
    exact apply_opening (c := c.under p) hc ht
  · rw [e, apply_closing_nil (c := c.under p) hc ht hs]
    have hkeep : p.keeps ⟨t.line, .unexpectedClosing t.name⟩ = true := rfl
    unfold under
    dsimp only
    congr 1
    exact Array.toList_inj.mp (by simp [hkeep])
  · -- both checks close the innermost level; only the complaints differ
    rw [e, apply_closing_cons (c := c.under p) hc ht hs, hall]
    unfold under
    dsimp only
    rw [Policy.complaint_eq_filter]
    congr 1
    exact Array.toList_inj.mp (by simp)

theorem run_under (p : Policy) (hall : c.policy = .all) (ts : List Tag) :
    (c.under p).run ts = (c.run ts).under p := by
  induction ts generalizing c with
  | nil => rfl
  | cons t ts ih =>
    have hall' : (c.apply t).policy = .all := by rw [apply_policy, hall]
    rw [run_cons, run_cons, apply_under p hall, ih hall']

theorem feed_under (p : Policy) (hall : c.policy = .all) (number : Nat) (line : String) :
    (c.under p).feed number line = (c.feed number line).under p := by
  rcases hc : c.halted with _ | _
  · rw [feed_of_not_halted hc, feed_of_not_halted (c := c.under p) hc, run_under p hall]
    rfl
  · rw [feed_of_halted hc, feed_of_halted (c := c.under p) hc]

theorem feedAll_under (p : Policy) (hall : c.policy = .all) (number : Nat)
    (lines : List String) :
    (c.under p).feedAll number lines = (c.feedAll number lines).under p := by
  induction lines generalizing c number with
  | nil => rfl
  | cons line lines ih =>
    have hall' : (c.feed number line).policy = .all := by rw [feed_policy, hall]
    rw [feedAll, feedAll, feed_under p hall, ih hall']

/-- No tag left open is left out of the report. -/
theorem diagnostics_finish_under (p : Policy) (c : Checker) :
    (c.under p).finish.diagnostics = c.finish.diagnostics.filter p.keeps := by
  have hopen : (c.openTags.map unclosedOf).filter p.keeps = c.openTags.map unclosedOf := by
    rw [List.filter_eq_self]
    intro d hd
    obtain ⟨o, -, rfl⟩ := List.mem_map.mp hd
    exact p.keeps_of_isUnclosed rfl
  have hleft : (if c.halted then [] else c.openTags.map unclosedOf).filter p.keeps =
      if c.halted then [] else c.openTags.map unclosedOf := by
    split
    · rfl
    · exact hopen
  unfold finish
  rw [List.filter_append, hleft, ← Array.toList_filter]
  rfl

end Checker

/-! ### Reports under two policies -/

/-- **The policy is a filter on the report.** -/
theorem checkLines_under (lines : List String) (p : Policy) :
    checkLines lines p = { checkLines lines .all with
      diagnostics := (checkLines lines .all).diagnostics.filter p.keeps } := by
  have hfed : (Checker.new p).feedAll 1 lines = ((Checker.new .all).feedAll 1 lines).under p :=
    Checker.feedAll_under (c := Checker.new .all) p rfl 1 lines
  rw [checkLines_eq, checkLines_eq, hfed, ← Checker.diagnostics_finish_under]
  rfl

theorem stackEmptied_filter_keeps (r : Report) (p : Policy) :
    Report.stackEmptied { r with diagnostics := r.diagnostics.filter p.keeps } =
      r.stackEmptied := by
  have hany : (r.diagnostics.filter p.keeps).any (·.isUnclosed) =
      r.diagnostics.any (·.isUnclosed) := by
    rw [List.any_filter]
    congr 1
    funext d
    rcases hd : d.isUnclosed with _ | _
    · exact Bool.and_false _
    · rw [p.keeps_of_isUnclosed hd]
      rfl
  unfold Report.stackEmptied
  rw [hany]

/-- **Reporting only the mismatches with `div` leaves out the others and changes nothing else**: the
halt, the count of lines and the order of what remains are the same.  So a document without a fault
has none under that policy, and whether anything is left open does not depend on the policy. -/
theorem checkDocument_divOnly_eq_filter (document : String) :
    (checkDocument document .divOnly).halted = (checkDocument document .all).halted ∧
    (checkDocument document .divOnly).linesScanned =
      (checkDocument document .all).linesScanned ∧
    (checkDocument document .divOnly).diagnostics =
      (checkDocument document .all).diagnostics.filter (!·.isForeign) ∧
    ((checkDocument document .all).isBalanced = true →
      (checkDocument document .divOnly).isBalanced = true) ∧
    (checkDocument document .divOnly).stackEmptied =
      (checkDocument document .all).stackEmptied := by
  have hkeeps : Policy.divOnly.keeps = (!·.isForeign) := funext Policy.keeps_divOnly
  unfold checkDocument
  rw [checkLines_under (linesOf document) .divOnly]
  refine ⟨rfl, rfl, by rw [hkeeps], fun h => ?_, stackEmptied_filter_keeps _ _⟩
  unfold Report.isBalanced at h ⊢
  rw [Bool.and_eq_true, List.isEmpty_iff] at h
  obtain ⟨hh, hd⟩ := h
  rw [hd, hh]
  rfl

/-- A document without a fault, in which every tag of a nested pair is `div`. -/
theorem checkDocument_divOnly_eq_filter_balanced :
    (checkDocument "<div><br>\n<div></div></div>" .all).isBalanced = true ∧
      (checkDocument "<div><br>\n<div></div></div>" .divOnly).isBalanced = true := by
  have h : (checkDocument "<div><br>\n<div></div></div>" .all).isBalanced = true := by
    decide +kernel
  exact ⟨h, (checkDocument_divOnly_eq_filter _).2.2.2.1 h⟩

-- `</i>` closes `<b>`, and only one of the two checks says so
example :
    (checkDocument "<div><b></i></p>" .all).diagnostics =
      [⟨1, .mismatch "b" 1 "i"⟩, ⟨1, .mismatch "div" 1 "p"⟩] ∧
    (checkDocument "<div><b></i></p>" .divOnly).diagnostics = [⟨1, .mismatch "div" 1 "p"⟩] := by
  decide +kernel

end TagNesting
