import Mathlib.Data.List.Induction
import TagNesting.Proofs.Nesting.Pairing

/-!
# The faults of a check, read off the pairs

What a check reports is determined by the pairs of `Pairing`: one mismatch for each pair whose names
differ and are to be reported, in the order of the closing tags, and one unclosed tag for each
opening without a partner.  The tags that count are those before the first closing tag at which
closings outnumber openings, that tag included (`cut`).

The proof carries the invariant `Tracks` along a run: the tags so far fall into levels of closed
words, the stack holds the open tags, these stand at the unpaired openings, and the diagnostics are
the mismatches of the pairs so far.  It holds as long as closings do not outnumber openings
(`exists_tracks`).
-/

namespace TagNesting

/-! ### What the pairs say is wrong -/

/-- A closing tag of another name than the tag it closes. -/
def Diagnostic.isMismatch (d : Diagnostic) : Bool :=
  match d.fault with
  | .mismatch _ _ _ => true
  | _ => false

/-- The mismatch of a pair of places, if its names differ and the policy reports that. -/
def mismatchAt (p : Policy) (ts : List Tag) (x : Nat × Nat) : Option Diagnostic :=
  match ts[x.1]?, ts[x.2]? with
  | some a, some b =>
    if a.name ≠ b.name ∧ p.reports a.name b.name = true then
      some ⟨b.line, .mismatch a.name a.line b.name⟩
    else none
  | _, _ => none

/-- The diagnostic of an opening tag left open. -/
def unclosedAt (ts : List Tag) (i : Nat) : Option Diagnostic :=
  ts[i]?.map fun a => ⟨a.line, .unclosed a.name⟩

/-- Closings outnumber openings. -/
def Overclosed (ts : List Tag) : Prop := openings ts < closings ts

instance (ts : List Tag) : Decidable (Overclosed ts) := inferInstanceAs (Decidable (_ < _))

/-- **The tags up to the first closing at which closings outnumber openings**, that one included, or
all of them. -/
def cut (ts : List Tag) : List Tag :=
  ts.take (((List.range (ts.length + 1)).find? fun n => Overclosed (ts.take n)).getD ts.length)

/-- The opening and closing tags of lines, as far as they count. -/
def levelTags (lines : List String) : List Tag :=
  cut ((tagsFrom 1 lines).filter fun t => t.kind ≠ .selfClosing)

theorem cut_cases (ts : List Tag) :
    (cut ts = ts ∧ ∀ n, ¬ Overclosed (ts.take n)) ∨
    ∃ n < ts.length, cut ts = ts.take (n + 1) ∧ Overclosed (ts.take (n + 1)) ∧
      ∀ m ≤ n, ¬ Overclosed (ts.take m) := by
  unfold cut
  rcases hf : (List.range (ts.length + 1)).find? fun n => Overclosed (ts.take n) with _ | n
  · rw [List.find?_range_eq_none] at hf
    refine Or.inl ⟨by rw [Option.getD_none, List.take_length], fun n => ?_⟩
    rcases Nat.lt_or_ge n (ts.length + 1) with hn | hn
    · simpa using hf n hn
    · have hall := hf ts.length (by omega)
      rw [List.take_of_length_le (by omega)]
      simpa using hall
  · rw [List.find?_range_eq_some] at hf
    obtain ⟨hn, hlt, hmin⟩ := hf
    rw [decide_eq_true_eq] at hn
    rw [List.mem_range] at hlt
    have hpos : n ≠ 0 := by
      rintro rfl
      exact absurd hn (by simp [Overclosed])
    obtain ⟨k, rfl⟩ := Nat.exists_eq_succ_of_ne_zero hpos
    refine Or.inr ⟨k, by omega, rfl, hn, fun m hm => ?_⟩
    simpa using hmin m (by omega)

/-- A tag put after a list changes nothing about the mismatches of the pairs of the list. -/
theorem mismatches_concat (p : Policy) (ts : List Tag) (t : Tag) :
    (pairs ts).filterMap (mismatchAt p (ts ++ [t])) =
      (pairs ts).filterMap (mismatchAt p ts) := by
  refine List.filterMap_congr fun x hx => ?_
  unfold pairs at hx
  simp only [List.mem_flatMap, List.mem_range, List.mem_map, List.mem_filter,
    decide_eq_true_eq] at hx
  obtain ⟨j, hj, i, ⟨hi, -⟩, rfl⟩ := hx
  unfold mismatchAt
  rw [List.getElem?_append_left hj, List.getElem?_append_left (by dsimp only; omega)]

theorem mismatchAt_toList (p : Policy) {ts : List Tag} {i j : Nat} {a b : Tag}
    (ha : ts[i]? = some a) (hb : ts[j]? = some b) :
    (mismatchAt p ts (i, j)).toList = p.complaint (OpenTag.ofTag a) b := by
  unfold mismatchAt Policy.complaint OpenTag.ofTag
  rw [ha, hb]
  dsimp only
  split <;> rfl

theorem isMismatch_of_mem_faults {p : Policy} {ts : List Tag} {xs : List (Nat × Nat)}
    {d : Diagnostic} (hd : d ∈ xs.filterMap (mismatchAt p ts)) : d.isMismatch = true := by
  obtain ⟨x, -, hx⟩ := List.mem_filterMap.mp hd
  unfold mismatchAt at hx
  split at hx
  · split at hx
    · rw [← Option.some.inj hx]; rfl
    · exact absurd hx (by simp)
  · exact absurd hx (by simp)

/-! ### The invariant of a run -/

/-- **What a run keeps** as long as it has not halted: its tags `ts` have the levels `s`, which are
the stack and the unpaired openings, and its diagnostics are the mismatches of its pairs. -/
structure Tracks (p : Policy) (ts : List Tag) (s : List (Nat × Tag)) : Prop where
  levels : Levels Closed s ts
  halted : ((Checker.new p).run ts).halted = false
  stack : ((Checker.new p).run ts).stack = stackOf s
  unpaired : unpaired ts = (s.map Prod.fst).reverse
  faults : ((Checker.new p).run ts).diagnostics.toList =
    (pairs ts).filterMap (mismatchAt p ts)

namespace Tracks

variable {p : Policy} {ts : List Tag} {t : Tag} {s : List (Nat × Tag)} {i : Nat} {a : Tag}

theorem nil (p : Policy) : Tracks p [] [] where
  levels := .ground Closed.concatenative.nil
  halted := rfl
  stack := rfl
  unpaired := rfl
  faults := rfl

/-- Without a partner for the new tag, the pairs and their mismatches stay as they are. -/
theorem faults_concat (hp : ∀ i, ¬ Paired (ts ++ [t]) i ts.length) :
    (pairs (ts ++ [t])).filterMap (mismatchAt p (ts ++ [t])) =
      (pairs ts).filterMap (mismatchAt p ts) := by
  have hnone : ((List.range ts.length).filter fun i => Paired (ts ++ [t]) i ts.length) = [] := by
    rw [List.filter_eq_nil_iff]
    intro i _
    simpa using hp i
  rw [pairs_concat, hnone, List.map_nil, List.append_nil, mismatches_concat]

theorem unpaired_concat_of_not_paired (hp : ∀ i, ¬ Paired (ts ++ [t]) i ts.length) :
    TagNesting.unpaired (ts ++ [t]) =
      TagNesting.unpaired ts ++ if t.kind = .opening then [ts.length] else [] := by
  rw [unpaired_concat, List.filter_eq_self.mpr]
  intro i _
  simpa using hp i

theorem not_paired_of_not_closing (ts : List Tag) (ht : t.kind ≠ .closing) (i : Nat) :
    ¬ Paired (ts ++ [t]) i ts.length := by
  rw [paired_last]
  rintro ⟨-, -, hc, -⟩
  exact ht hc

theorem selfClosing (h : Tracks p ts s) (ht : t.kind = .selfClosing) : Tracks p (ts ++ [t]) s := by
  have hne : t.kind ≠ .closing := by rw [ht]; decide
  have hp := not_paired_of_not_closing ts hne
  have he : (Checker.new p).run (ts ++ [t]) = (Checker.new p).run ts := by
    rw [Checker.run_concat, Checker.apply_selfClosing _ ht]
  refine ⟨h.levels.append Closed.concatenative (.singleton ht), ?_, ?_, ?_, ?_⟩
  · rw [he, h.halted]
  · rw [he, h.stack]
  · rw [unpaired_concat_of_not_paired hp, h.unpaired, ht]
    simp
  · rw [he, h.faults, faults_concat hp]

theorem opening (h : Tracks p ts s) (ht : t.kind = .opening) :
    Tracks p (ts ++ [t]) ((ts.length, t) :: s) := by
  have hne : t.kind ≠ .closing := by rw [ht]; decide
  have hp := not_paired_of_not_closing ts hne
  have he := (Checker.new p).run_concat ts t
  rw [Checker.apply_opening h.halted ht] at he
  refine ⟨h.levels.push Closed.concatenative ht, ?_, ?_, ?_, ?_⟩
  · rw [he]; exact h.halted
  · rw [he, h.stack]; rfl
  · rw [unpaired_concat_of_not_paired hp, h.unpaired, if_pos ht, List.map_cons, List.reverse_cons]
  · rw [he, faults_concat hp]; exact h.faults

/-- A closing tag is paired with the innermost open tag. -/
theorem paired_iff (h : Tracks p ts ((i, a) :: s)) (ht : t.kind = .closing) (k : Nat) :
    Paired (ts ++ [t]) k ts.length ↔ k = i := by
  rw [paired_last_iff h.levels ht]
  constructor
  · rintro ⟨b, s', he⟩
    rw [List.cons.injEq, Prod.mk.injEq] at he
    exact he.1.1.symm
  · rintro rfl
    exact ⟨a, s, rfl⟩

/-- The innermost open tag is no longer unpaired; the others still are. -/
theorem unpaired_closing (h : Tracks p ts ((i, a) :: s)) (ht : t.kind = .closing) :
    TagNesting.unpaired (ts ++ [t]) = (s.map Prod.fst).reverse := by
  have hnodup : ((s.map Prod.fst).reverse ++ [i]).Nodup := by
    have hn : (TagNesting.unpaired ts).Nodup := List.nodup_range.filter _
    rwa [h.unpaired, List.map_cons, List.reverse_cons] at hn
  rw [unpaired_concat, h.unpaired, List.map_cons, List.reverse_cons, List.filter_append,
    List.filter_eq_self.mpr, ht]
  · simp [h.paired_iff ht]
  · intro k hk
    have hne : k ≠ i := fun he => (List.nodup_append.mp hnodup).2.2 k hk i (by simp) he
    simpa [h.paired_iff ht] using hne

/-- The new pair joins the innermost open tag and the closing tag. -/
theorem faults_closing (h : Tracks p ts ((i, a) :: s)) (ht : t.kind = .closing) :
    (pairs (ts ++ [t])).filterMap (mismatchAt p (ts ++ [t])) =
      (pairs ts).filterMap (mismatchAt p ts) ++ p.complaint (OpenTag.ofTag a) t := by
  have hi : ts[i]? = some a := h.levels.getElem?_of_mem (i, a) (by simp)
  have hlt : i < ts.length := (List.getElem?_eq_some_iff.mp hi).1
  have hnew : ((List.range ts.length).filter fun k => Paired (ts ++ [t]) k ts.length) = [i] := by
    simp only [h.paired_iff ht]
    rw [List.filter_eq, List.count_eq_one_of_mem List.nodup_range (List.mem_range.mpr hlt)]
    rfl
  have hpart : (mismatchAt p (ts ++ [t]) (i, ts.length)).toList =
      p.complaint (OpenTag.ofTag a) t :=
    mismatchAt_toList p (by rw [List.getElem?_append_left hlt, hi]) (by simp)
  rw [pairs_concat, hnew, List.filterMap_append, mismatches_concat, ← hpart]
  rfl

theorem closing (h : Tracks p ts ((i, a) :: s)) (ht : t.kind = .closing) :
    Tracks p (ts ++ [t]) s := by
  have he := (Checker.new p).run_concat ts t
  rw [Checker.apply_closing_cons h.halted ht h.stack] at he
  refine ⟨h.levels.pop Closed.concatenative fun ha hw => hw.enclose ha ht, ?_, ?_,
    h.unpaired_closing ht, ?_⟩
  · rw [he]; exact h.halted
  · rw [he]; rfl
  · rw [he, h.faults_closing ht, ← h.faults, Checker.run_policy]
    exact Array.toList_appendList

end Tracks

/-- **The invariant holds as long as closings do not outnumber openings.** -/
theorem exists_tracks (p : Policy) {ts : List Tag} (hts : ∀ n, ¬ Overclosed (ts.take n)) :
    ∃ s, Tracks p ts s := by
  induction ts using List.reverseRecOn with
  | nil => exact ⟨[], .nil p⟩
  | append_singleton ts t ih =>
    have hts' : ∀ n, ¬ Overclosed (ts.take n) := by
      intro n
      rcases Nat.lt_or_ge n ts.length with hn | hn
      · have := hts n
        rwa [List.take_append_of_le_length hn.le] at this
      · have := hts ts.length
        rwa [List.take_left, ← List.take_of_length_le hn] at this
    obtain ⟨s, hs⟩ := ih hts'
    rcases ht : t.kind with _ | _ | _
    · exact ⟨_, hs.opening ht⟩
    · rcases s with _ | ⟨⟨i, a⟩, s⟩
      · -- nothing is open, so this closing tag outnumbers
        have h1 := hs.levels.openings_eq
        have h2 := hts (ts.length + 1)
        rw [List.take_of_length_le (by simp)] at h2
        unfold Overclosed at h2
        rw [openings_append, closings_append, openings_cons, closings_cons, ht] at h2
        simp only [List.length_nil, reduceCtorEq, if_false, if_true, openings_nil,
          closings_nil] at h1 h2
        omega
      · exact ⟨s, hs.closing ht⟩
    · exact ⟨s, hs.selfClosing ht⟩

/-! ### The faults of a whole run -/

/-- The closing tag that makes closings outnumber openings finds nothing open. -/
theorem Tracks.of_overclosed {p : Policy} {ts : List Tag} {t : Tag} {s : List (Nat × Tag)}
    (h : Tracks p ts s) (ho : Overclosed (ts ++ [t])) : t.kind = .closing ∧ s = [] := by
  have h1 := h.levels.openings_eq
  unfold Overclosed at ho
  rw [openings_append, closings_append, openings_cons, closings_cons, openings_nil,
    closings_nil] at ho
  by_cases ht : t.kind = .closing
  · rw [if_pos ht] at ho
    exact ⟨ht, List.length_eq_zero_iff.mp (by omega)⟩
  · rw [if_neg ht] at ho
    omega

/-- **A run up to its cut.**  Either the invariant holds of all tags, or it holds, with nothing open,
of those before the last tag of the cut, and that tag halts the run. -/
theorem tracks_cases (p : Policy) (ts : List Tag) :
    (cut ts = ts ∧ ∃ s, Tracks p ts s) ∨
    ∃ us t, cut ts = us ++ [t] ∧ t.kind = .closing ∧ Tracks p us [] ∧
      (Checker.new p).run ts = ((Checker.new p).run us).apply t := by
  rcases cut_cases ts with ⟨hcut, hts⟩ | ⟨n, hn, hcut, hover, hmin⟩
  · exact Or.inl ⟨hcut, exists_tracks p hts⟩
  · have htake : ts.take (n + 1) = ts.take n ++ [ts[n]] := (List.take_concat_get' ts n hn).symm
    rw [htake] at hcut hover
    obtain ⟨s, hs⟩ : ∃ s, Tracks p (ts.take n) s := by
      refine exists_tracks p fun m => ?_
      rw [List.take_take]
      exact hmin _ (Nat.min_le_right m n)
    obtain ⟨hk, rfl⟩ := hs.of_overclosed hover
    refine Or.inr ⟨ts.take n, ts[n], hcut, hk, hs, ?_⟩
    have hhalt : ((Checker.new p).run (ts.take n ++ [ts[n]])).halted = true := by
      rw [Checker.run_concat, Checker.apply_closing_nil hs.halted hk hs.stack]
    have hprefix : ts.take n ++ [ts[n]] <+: ts := by rw [← htake]; exact List.take_prefix _ _
    rw [Checker.run_eq_of_halted hprefix hhalt, Checker.run_concat]

theorem mismatches_run (p : Policy) (ts : List Tag) :
    ((Checker.new p).run ts).diagnostics.toList.filter (·.isMismatch) =
      (pairs (cut ts)).filterMap (mismatchAt p (cut ts)) := by
  have hkeep : ∀ us : List Tag, ((pairs us).filterMap (mismatchAt p us)).filter (·.isMismatch) =
      (pairs us).filterMap (mismatchAt p us) := fun us =>
    List.filter_eq_self.mpr fun d hd => isMismatch_of_mem_faults hd
  rcases tracks_cases p ts with ⟨hcut, s, hs⟩ | ⟨us, t, hcut, ht, hs, hrun⟩
  · rw [hcut, hs.faults, hkeep]
  · have hnone : ∀ i, ¬ Paired (us ++ [t]) i us.length := by
      intro i
      rw [paired_last_iff hs.levels ht]
      rintro ⟨a, s', he⟩
      exact List.cons_ne_nil _ _ he.symm
    rw [hcut, Tracks.faults_concat hnone, hrun, Checker.apply_closing_nil hs.halted ht hs.stack,
      Array.toList_push, List.filter_append, hs.faults, hkeep]
    exact List.append_nil _

theorem openTags_run (p : Policy) {ts : List Tag}
    (h : ((Checker.new p).run ts).halted = false) :
    ((Checker.new p).run ts).openTags.map Checker.unclosedOf =
      (unpaired (cut ts)).filterMap (unclosedAt (cut ts)) := by
  rcases tracks_cases p ts with ⟨hcut, s, hs⟩ | ⟨us, t, -, ht, hs, hrun⟩
  · have hone : ∀ x ∈ s.reverse, unclosedAt ts x.1 = some (Checker.unclosedOf (.ofTag x.2)) := by
      intro x hx
      unfold unclosedAt
      rw [hs.levels.getElem?_of_mem x (List.mem_reverse.mp hx)]
      rfl
    rw [hcut, hs.unpaired, ← List.map_reverse, List.filterMap_map]
    rw [List.filterMap_congr (g := some ∘ fun x => Checker.unclosedOf (.ofTag x.2)) hone,
      List.filterMap_eq_map]
    unfold Checker.openTags
    rw [hs.stack, stackOf, ← List.map_reverse, List.map_map]
    rfl
  · rw [hrun, Checker.apply_closing_nil hs.halted ht hs.stack] at h
    exact Bool.noConfusion h

/-! ### The faults of a check -/

/-- Self-closing tags play no part in a run. -/
theorem run_filter (c : Checker) (ts : List Tag) :
    c.run (ts.filter fun t => t.kind ≠ .selfClosing) = c.run ts := by
  induction ts generalizing c with
  | nil => rfl
  | cons t ts ih =>
    by_cases ht : t.kind = .selfClosing
    · rw [List.filter_cons_of_neg (by simpa using ht), ih, Checker.run_cons,
        Checker.apply_selfClosing c ht]
    · rw [List.filter_cons_of_pos (by simpa using ht), Checker.run_cons, ih, Checker.run_cons]

/-- **A check reports exactly what the pairs say.**  Its mismatches are those of the pairs whose
names differ and are to be reported, in the order of the closing tags; its unclosed tags, if it did
not halt, are the openings without a partner, in order; a halted check reports none. -/
theorem checkLines_faults (lines : List String) (p : Policy) :
    (checkLines lines p).diagnostics.filter (·.isMismatch) =
      (pairs (levelTags lines)).filterMap (mismatchAt p (levelTags lines)) ∧
    (checkLines lines p).unclosed =
      if (checkLines lines p).halted then []
      else (unpaired (levelTags lines)).filterMap (unclosedAt (levelTags lines)) := by
  have hclosing := (Checker.onlyClosing_new p).run (tagsFrom 1 lines)
  unfold levelTags
  constructor
  · rw [checkLines_diagnostics, Checker.filter_finish _ fun _ => rfl, ← run_filter, mismatches_run]
  · have hun : (checkLines lines p).unclosed =
        ((Checker.new p).run (tagsFrom 1 lines)).finish.unclosed := by
      unfold Report.unclosed
      rw [checkLines_diagnostics]
    rw [hun, hclosing.unclosed_finish, checkLines_halted]
    split
    · rfl
    · next h =>
      rw [Bool.not_eq_true, ← run_filter] at h
      rw [← run_filter, openTags_run p h]

end TagNesting
