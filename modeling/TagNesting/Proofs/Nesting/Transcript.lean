import TagNesting.Proofs.Nesting.Run

/-!
# What a check takes and what it logs

A check takes the tags of its lines one by one and stops at the first one that halts it.  For the
checker this makes no difference, since a halted checker ignores what follows; for the log it does.
`Transcript` says what the log of a check has to be, from the tags of all lines and a stack of open
tags alone: two records for a tag that opens or closes a level, one for any other, and none after a
closing tag that finds the stack empty.

`Checker.logOf` is the log of a run over a list of tags.  Draining a line, feeding it and feeding all
lines write just that (`Progress.drain_log`, `Progress.feed_log`, `Progress.feedAll_log`), and it is
the transcript (`Checker.transcript_logOf`).  The tags it names are no more than are needed
(`Checker.upToHalt_logOf`).
-/

namespace TagNesting

open TagNesting.Log

/-! ### Transcripts -/

/-- The record of a tag that is taken. -/
def traceRecord (label : String) (t : Tag) : Level × String :=
  (.trace, s!"line {t.line}: {label} <{t.name}>")

/-- **What is logged about tags** that are taken with the tags of a stack open, innermost first. -/
inductive Transcript (p : Policy) : List OpenTag → List Tag → List (Level × String) → Prop
  | done {s : List OpenTag} : Transcript p s [] []
  | selfClosing {s : List OpenTag} {t : Tag} {ts : List Tag} {ms : List (Level × String)} :
      t.kind = .selfClosing → Transcript p s ts ms →
      Transcript p s (t :: ts) (traceRecord "SelfClosing" t :: ms)
  | opening {s : List OpenTag} {t : Tag} {ts : List Tag} {ms : List (Level × String)} :
      t.kind = .opening → Transcript p (⟨t.name, t.line⟩ :: s) ts ms →
      Transcript p s (t :: ts)
        (traceRecord "Opening" t :: (.debug, s!"line {t.line}: push <{t.name}>") :: ms)
  /-- The names agree. -/
  | agreeing {s : List OpenTag} {o : OpenTag} {t : Tag} {ts : List Tag}
      {ms : List (Level × String)} :
      t.kind = .closing → o.name = t.name → Transcript p s ts ms →
      Transcript p (o :: s) (t :: ts)
        (traceRecord "Closing" t :: (.debug, s!"line {t.line}: pop <{o.name}>") :: ms)
  /-- The names differ, and the policy reports that. -/
  | reported {s : List OpenTag} {o : OpenTag} {t : Tag} {ts : List Tag}
      {ms : List (Level × String)} :
      t.kind = .closing → o.name ≠ t.name → p.reports o.name t.name = true →
      Transcript p s ts ms →
      Transcript p (o :: s) (t :: ts) (traceRecord "Closing" t ::
        (.debug, s!"line {t.line}: </{t.name}> closes <{o.name}> from line {o.line}") :: ms)
  /-- The names differ, and the policy does not report that. -/
  | silent {s : List OpenTag} {o : OpenTag} {t : Tag} {ts : List Tag} {ms : List (Level × String)} :
      t.kind = .closing → o.name ≠ t.name → p.reports o.name t.name = false →
      Transcript p s ts ms →
      Transcript p (o :: s) (t :: ts) (traceRecord "Closing" t ::
        (.debug, s!"line {t.line}: </{t.name}> silently pops <{o.name}>") :: ms)
  /-- Nothing is open: the tags that follow are not taken. -/
  | halting {t : Tag} {ts : List Tag} : t.kind = .closing →
      Transcript p [] (t :: ts) [traceRecord "Closing" t,
        (.debug, s!"line {t.line}: </{t.name}> with empty stack, halting")]

/-- There is one transcript at most. -/
theorem Transcript.unique {p : Policy} {s : List OpenTag} {ts : List Tag}
    {ms ns : List (Level × String)} (h : Transcript p s ts ms) (h' : Transcript p s ts ns) :
    ms = ns := by
  induction h generalizing ns with
  | done => cases h'; rfl
  | selfClosing ht _ ih => cases h' <;> grind
  | opening ht _ ih => cases h' <;> grind
  | agreeing ht hn _ ih => cases h' <;> grind
  | reported ht hn hr _ ih => cases h' <;> grind
  | silent ht hn hr _ ih => cases h' <;> grind
  | halting ht => cases h' <;> grind

/-- The records of a log that a threshold lets through. -/
def recordsAt (threshold : Threshold) (events : List Event) : List (Level × String) :=
  (events.filter fun e => threshold.admits e.level).map fun e => (e.level, e.message)

/-- The tag that was taken, if an event says so. -/
def takenTag? : Event → Option Tag
  | .tagTaken t => some t
  | _ => none

theorem recordsAt_trace (events : List Event) :
    recordsAt (some .trace) events = events.map fun e => (e.level, e.message) := by
  have hall : ∀ e ∈ events, Threshold.admits (some .trace) e.level = true := by
    intro e _
    rcases e.level with _ | _ | _ | _ | _ <;> rfl
  unfold recordsAt
  rw [List.filter_eq_self.mpr hall]

theorem record_tagTaken {t : Tag} {k : Kind} (ht : t.kind = k) :
    ((Event.tagTaken t).level, (Event.tagTaken t).message) =
      traceRecord (Event.kindLabel k) t := by
  rw [← ht]
  rfl

namespace Checker

/-! ### The log of a run -/

/-- **The log of a run**: each tag is noted and applied until the checker halts. -/
def logOf (c : Checker) : List Tag → List Event
  | [] => []
  | t :: ts => if c.halted then [] else .tagTaken t :: (c.note t ++ (c.apply t).logOf ts)

variable {c : Checker} {t : Tag} {ts us : List Tag}

@[simp] theorem logOf_nil (c : Checker) : c.logOf [] = [] := rfl

theorem logOf_of_halted (h : c.halted = true) (ts : List Tag) : c.logOf ts = [] := by
  cases ts with
  | nil => rfl
  | cons t ts => rw [logOf, if_pos h]

theorem logOf_cons (h : c.halted = false) (t : Tag) (ts : List Tag) :
    c.logOf (t :: ts) = .tagTaken t :: (c.note t ++ (c.apply t).logOf ts) := by
  rw [logOf, if_neg (by rw [h]; exact Bool.false_ne_true)]

theorem logOf_append (c : Checker) (ts us : List Tag) :
    c.logOf (ts ++ us) = c.logOf ts ++ (c.run ts).logOf us := by
  induction ts generalizing c with
  | nil => rfl
  | cons t ts ih =>
    rcases hc : c.halted with _ | _
    · rw [List.cons_append, logOf_cons hc, logOf_cons hc, ih, run_cons, List.cons_append,
        List.append_assoc]
    · rw [logOf_of_halted hc, logOf_of_halted hc, run_of_halted hc, logOf_of_halted hc]
      rfl

theorem logOf_withLines (c : Checker) (k : Nat) (ts : List Tag) :
    (c.withLines k).logOf ts = c.logOf ts := by
  induction ts generalizing c with
  | nil => rfl
  | cons t ts ih =>
    rcases hc : c.halted with _ | _
    · have hc' : (c.withLines k).halted = false := hc
      have hnote : (c.withLines k).note t = c.note t := rfl
      rw [logOf_cons hc', logOf_cons hc, apply_withLines, ih, hnote]
    · have hc' : (c.withLines k).halted = true := hc
      rw [logOf_of_halted hc', logOf_of_halted hc]

theorem logOf_feed (c : Checker) (number : Nat) (line : String) (ts : List Tag) :
    (c.feed number line).logOf ts = (c.run (tagsOfLine number line)).logOf ts := by
  rcases hc : c.halted with _ | _
  · rw [feed_of_not_halted hc, logOf_withLines]
  · rw [feed_of_halted hc, run_of_halted hc]

/-! ### It is the transcript -/

theorem note_closing_cons {o : OpenTag} {s : List OpenTag} (hc : c.halted = false)
    (ht : t.kind = .closing) (hs : c.stack = o :: s) :
    c.note t = if o.name = t.name then [.popped t.line o.name]
      else if c.policy.reports o.name t.name then [.mismatched t.line t.name o.name o.line]
      else [.silentlyPopped t.line t.name o.name] := by
  simp [note, hc, ht, hs]

/-- **The log of a run is the transcript of its tags.** -/
theorem transcript_logOf (hc : c.halted = false) (ts : List Tag) :
    Transcript c.policy c.stack ts ((c.logOf ts).map fun e => (e.level, e.message)) := by
  induction ts generalizing c with
  | nil => exact .done
  | cons t ts ih =>
    rw [logOf_cons hc, List.map_cons, List.map_append]
    rcases apply_cases c t with
      ⟨hh | ht, e⟩ | ⟨-, ht, e⟩ | ⟨-, ht, hs, e⟩ | ⟨o, s, -, ht, hs, e⟩
    · exact Bool.noConfusion (hc.symm.trans hh)
    · have hnote : c.note t = [] := by simp [note, hc, ht]
      rw [record_tagTaken ht, hnote, e]
      exact .selfClosing ht (ih hc)
    · have hnote : c.note t = [.pushed t.line t.name] := by simp [note, hc, ht]
      rw [record_tagTaken ht, hnote, e]
      exact .opening ht (ih (c := { c with stack := OpenTag.ofTag t :: c.stack }) hc)
    · -- the checker has halted, so nothing more is logged
      have hnote : c.note t = [.nothingOpen t.line t.name] := by simp [note, hc, ht, hs]
      rw [record_tagTaken ht, hnote, logOf_of_halted (by rw [e]), hs]
      exact .halting ht
    · have hrest := ih (c := c.apply t) (by rw [e]; exact hc)
      rw [e] at hrest ⊢
      rw [record_tagTaken ht, note_closing_cons hc ht hs, hs]
      by_cases hn : o.name = t.name
      · rw [if_pos hn]
        exact .agreeing ht hn hrest
      · rw [if_neg hn]
        rcases hr : c.policy.reports o.name t.name with _ | _
        · exact .silent ht hn hr hrest
        · exact .reported ht hn hr hrest

/-! ### No tag is taken that need not be -/

/-- **The tags up to the first one that halts a run**, that one included, or all of them. -/
structure UpToHalt (c : Checker) (ts used : List Tag) : Prop where
  initial : used <+: ts
  enough : used = ts ∨ (c.run used).halted = true
  least : ∀ front, front <+: used → front ≠ used → (c.run front).halted = false

theorem filterMap_note (c : Checker) (t : Tag) : (c.note t).filterMap takenTag? = [] := by
  unfold note
  split
  · rfl
  · split
    · rfl
    · rfl
    · rfl
    · split
      · rfl
      · split <;> rfl

theorem upToHalt_logOf (hc : c.halted = false) (ts : List Tag) :
    c.UpToHalt ts ((c.logOf ts).filterMap takenTag?) := by
  induction ts generalizing c with
  | nil =>
    refine ⟨List.prefix_rfl, .inl rfl, fun front hfront hne => ?_⟩
    exact absurd (List.prefix_nil.mp hfront) hne
  | cons t ts ih =>
    have hused : (c.logOf (t :: ts)).filterMap takenTag? =
        t :: ((c.apply t).logOf ts).filterMap takenTag? := by
      rw [logOf_cons hc, List.filterMap_cons, List.filterMap_append, filterMap_note]
      rfl
    rw [hused]
    rcases ht : (c.apply t).halted with _ | _
    · obtain ⟨hinitial, henough, hleast⟩ := ih ht
      refine ⟨List.cons_prefix_cons.mpr ⟨rfl, hinitial⟩, ?_, fun front hfront hne => ?_⟩
      · exact henough.imp (fun h => by rw [h]) id
      · rcases List.prefix_cons_iff.mp hfront with rfl | ⟨rest, rfl, hrest⟩
        · exact hc
        · exact hleast rest hrest fun h => hne (by rw [h])
    · rw [logOf_of_halted ht, List.filterMap_nil]
      refine ⟨List.prefix_append [t] ts, .inr ht, fun front hfront hne => ?_⟩
      rcases List.prefix_cons_iff.mp hfront with rfl | ⟨rest, rfl, hrest⟩
      · exact hc
      · rw [List.prefix_nil.mp hrest] at hne
        exact absurd rfl hne

end Checker

/-! ### The log of a check -/

namespace Progress

theorem drain_log {p : Progress} (hp : p.checker.halted = false) (c : Cursor) :
    (p.drain c).log.toList = p.log.toList ++ p.checker.logOf c.tags := by
  fun_induction Progress.drain p c with
  | case1 p c h => rw [Cursor.tags_of_next?_eq_none h, Checker.logOf_nil, List.append_nil]
  | case2 p c t rest h _ q hq =>
    have hq' : (p.checker.apply t).halted = true := hq
    rw [Cursor.tags_of_next?_eq_some h, Checker.logOf_cons hp, Checker.logOf_of_halted hq']
    simp [q, take]
  | case3 p c t rest h _ q hq ih =>
    rw [ih (by simpa using hq), Cursor.tags_of_next?_eq_some h, Checker.logOf_cons hp]
    simp [q, take]

theorem feed_log (p : Progress) (number : Nat) (line : String) :
    (p.feed number line).log.toList =
      p.log.toList ++ p.checker.logOf (tagsOfLine number line) := by
  unfold feed
  split
  · next h => rw [Checker.logOf_of_halted h, List.append_nil]
  · next h =>
    rw [Bool.not_eq_true] at h
    have hdrain := drain_log (p := { p with
      checker := p.checker.withLines (p.checker.linesScanned + 1) }) h (Cursor.ofLine number line)
    rw [Checker.logOf_withLines] at hdrain
    exact hdrain

theorem feedAll_log (p : Progress) (number : Nat) (lines : List String) :
    (p.feedAll number lines).log.toList =
      p.log.toList ++ p.checker.logOf (tagsFrom number lines) := by
  induction lines generalizing p number with
  | nil => exact (List.append_nil _).symm
  | cons line lines ih =>
    have hrest : (p.feed number line).checker.logOf (tagsFrom (number + 1) lines) =
        (p.checker.run (tagsOfLine number line)).logOf (tagsFrom (number + 1) lines) := by
      rw [feed_checker, Checker.logOf_feed]
    rw [tagsFrom_cons, Checker.logOf_append, ← List.append_assoc, ← feed_log, ← hrest, feedAll]
    split
    · next h => rw [Checker.logOf_of_halted h, List.append_nil]
    · exact ih _ _

end Progress

theorem checkLog_eq (lines : List String) (p : Policy) :
    checkLog lines p = (Checker.new p).logOf (tagsFrom 1 lines) :=
  Progress.feedAll_log (Progress.start p) 1 lines

/-- **The early end of a check loses nothing and saves what it can.**  The stack, the diagnostics and
the halt are those of applying all tags of all lines.  What is logged at the lowest level is the
transcript of these tags, and the tags taken are those up to the first that halts. -/
theorem checkLog_transcript (lines : List String) (p : Policy) :
    let eager := (tagsFrom 1 lines).foldl Checker.apply (Checker.new p)
    let early := ((Progress.start p).feedAll 1 lines).checker
    checkLines lines p = early.finish ∧ early.stack = eager.stack ∧
    early.diagnostics = eager.diagnostics ∧ early.halted = eager.halted ∧
    (∀ ms, Transcript p [] (tagsFrom 1 lines) ms ↔
      ms = recordsAt (some .trace) (checkLog lines p)) ∧
    (Checker.new p).UpToHalt (tagsFrom 1 lines) ((checkLog lines p).filterMap takenTag?) := by
  intro eager early
  obtain ⟨k, hearly⟩ : ∃ k, early = eager.withLines k :=
    ⟨_, (Progress.feedAll_checker _ 1 lines).trans (Checker.feedAll_eq (Checker.new p) 1 lines)⟩
  have htranscript := Checker.transcript_logOf (c := Checker.new p) rfl (tagsFrom 1 lines)
  rw [← checkLog_eq, ← recordsAt_trace] at htranscript
  rw [hearly]
  refine ⟨congrArg Checker.finish hearly, rfl, rfl, rfl, fun ms => ⟨fun h => h.unique htranscript, ?_⟩, ?_⟩
  · rintro rfl
    exact htranscript
  · rw [checkLog_eq]
    exact Checker.upToHalt_logOf rfl _

/-- The mismatch names the tag that was popped, and nothing is logged about `<p>`. -/
example : recordsAt (some .trace) (checkLog ["<div></b>", "</i><p>", "<br>"] .divOnly) =
    [(.trace, "line 1: Opening <div>"), (.debug, "line 1: push <div>"),
      (.trace, "line 1: Closing <b>"), (.debug, "line 1: </b> closes <div> from line 1"),
      (.trace, "line 2: Closing <i>"), (.debug, "line 2: </i> with empty stack, halting")] := by
  decide +kernel

end TagNesting
