import TagNesting.Proofs.Nesting.Names
import TagNesting.Proofs.Report.Recovery
import TagNesting.Proofs.Text.Terminators
import TagNesting.Report.Text

/-!
# A report read back from its text

The plain text of a report is a list of lines.  Those before the heading or the line that says that
all is balanced tell the faults of closing tags; those after it tell the tags left open; and if there
is no such line, the check has halted.  Each line is read from left to right: a fixed text, a number,
a fixed text, a name.  This works since a name is made of word characters, so that neither a blank
nor a line end can stand in it (`Report.Legible`).

* `Diagnostic.ofFaultLine?_message`, `Diagnostic.ofOpenLine?_message`: one line is read back.
* `Report.ofText?_toText`: the diagnostics and the halt are read back from the text of a legible
  report.
* `legible_checkLines`: the report on lines is legible.
-/

namespace TagNesting

open TagNesting.Text TagNesting.Text.WordClass
open TagNesting.Json (Stops stops_nil stops_cons takeWhile_of_stops dropWhile_of_stops)

/-! ### The decoder -/

/-- Takes a number from the front of a text. -/
def takeNumber (cs : List Char) : Nat × List Char :=
  (Nat.ofDigitChars 10 (cs.takeWhile Char.isDigit) 0, cs.dropWhile Char.isDigit)

/-- Takes a name from the front of a text. -/
def takeName (cs : List Char) : String × List Char :=
  (String.ofList (cs.takeWhile isWordChar), cs.dropWhile isWordChar)

/-- The fault of a closing tag that a line tells. -/
def Diagnostic.ofFaultLine? (line : String) : Option Diagnostic := do
  let rest ← line.toList.dropPrefix? "Line ".toList
  let (number, rest) := takeNumber rest
  match rest.dropPrefix? ": Unexpected closing tag ".toList with
  | some name => return ⟨number, .unexpectedClosing (String.ofList name)⟩
  | none =>
    let rest ← rest.dropPrefix? ": Mismatch! Expected closing ".toList
    let (expected, rest) := takeName rest
    let rest ← rest.dropPrefix? " (opened at ".toList
    let (openedAt, rest) := takeNumber rest
    let found ← rest.dropPrefix? "), found ".toList
    return ⟨number, .mismatch expected openedAt (String.ofList found)⟩

/-- The tag left open that a line tells. -/
def Diagnostic.ofOpenLine? (line : String) : Option Diagnostic := do
  let rest ← line.toList.dropPrefix? "  ".toList
  let (name, rest) := takeName rest
  let rest ← rest.dropPrefix? " at line ".toList
  return ⟨(takeNumber rest).1, .unclosed name⟩

namespace Report

/-- The line follows the faults of closing tags. -/
def isTrailer (line : String) : Bool := line = balancedLine || line = unclosedHeading

/-- **The diagnostics that a text tells, and whether the check has halted.** -/
def ofText? (text : String) : Option (List Diagnostic × Bool) := do
  let lines := linesOf text
  let faults ← (lines.takeWhile fun l => !isTrailer l).mapM Diagnostic.ofFaultLine?
  match lines.dropWhile fun l => !isTrailer l with
  | [] => return (faults, true)
  | _ :: left => return (faults ++ (← left.mapM Diagnostic.ofOpenLine?), false)

end Report

/-! ### Numbers, names and fixed texts -/

theorem takeNumber_append (n : Nat) {rest : List Char} (h : Stops Char.isDigit rest) :
    takeNumber ((toString n).toList ++ rest) = (n, rest) := by
  have hdigits : ∀ c ∈ Nat.toDigits 10 n, c.isDigit = true := fun c hc =>
    Nat.isDigit_of_mem_toDigits (by decide) (by decide) hc
  unfold takeNumber
  rw [Nat.toString_eq_repr, Nat.toList_repr, takeWhile_of_stops hdigits h,
    dropWhile_of_stops hdigits h, Nat.ofDigitChars_ten_toDigits]

theorem takeName_append {name : String} (hw : IsWord name) {rest : List Char}
    (h : Stops isWordChar rest) : takeName (name.toList ++ rest) = (name, rest) := by
  unfold takeName
  rw [takeWhile_of_stops hw h, dropWhile_of_stops hw h, String.ofList_toList]

theorem dropPrefix?_append_self (fixed rest : List Char) :
    (fixed ++ rest).dropPrefix? fixed = some rest :=
  List.dropPrefix?_append_of_beq rest (beq_self_eq_true fixed)

/-- Neither a line feed nor a carriage return stands in the text. -/
def Plain (cs : List Char) : Prop := '\n' ∉ cs ∧ '\r' ∉ cs

instance (cs : List Char) : Decidable (Plain cs) := inferInstanceAs (Decidable (_ ∧ _))

theorem Plain.append {cs ds : List Char} (h : Plain cs) (h' : Plain ds) : Plain (cs ++ ds) := by
  obtain ⟨hlf, hcr⟩ := h
  obtain ⟨hlf', hcr'⟩ := h'
  simp [Plain, hlf, hlf', hcr, hcr']

theorem plain_of_class {p : Char → Bool} (hlf : p '\n' = false) (hcr : p '\r' = false)
    {cs : List Char} (h : ∀ c ∈ cs, p c = true) : Plain cs := by
  refine ⟨fun hmem => ?_, fun hmem => ?_⟩
  · rw [h _ hmem] at hlf
    exact Bool.noConfusion hlf
  · rw [h _ hmem] at hcr
    exact Bool.noConfusion hcr

theorem plain_name {name : String} (hw : IsWord name) : Plain name.toList :=
  plain_of_class (by decide +kernel) (by decide +kernel) hw

theorem plain_number (n : Nat) : Plain (toString n).toList := by
  rw [Nat.toString_eq_repr, Nat.toList_repr]
  exact plain_of_class (p := Char.isDigit) (by decide) (by decide) fun c hc =>
    Nat.isDigit_of_mem_toDigits (by decide) (by decide) hc

/-! ### One line -/

namespace Diagnostic

variable {d : Diagnostic}

theorem toList_message_unexpected (line : Nat) (name : String) :
    (message ⟨line, .unexpectedClosing name⟩).toList = "Line ".toList ++ ((toString line).toList ++
      (": Unexpected closing tag ".toList ++ name.toList)) := by
  simp only [message, String.toList_append, List.append_assoc]

theorem toList_message_mismatch (line : Nat) (expected : String) (openedAt : Nat)
    (found : String) : (message ⟨line, .mismatch expected openedAt found⟩).toList =
      "Line ".toList ++ ((toString line).toList ++ (": Mismatch! Expected closing ".toList ++
        (expected.toList ++ (" (opened at ".toList ++ ((toString openedAt).toList ++
          ("), found ".toList ++ found.toList)))))) := by
  simp only [message, String.toList_append, List.append_assoc]

theorem toList_message_unclosed (line : Nat) (name : String) :
    (message ⟨line, .unclosed name⟩).toList =
      name.toList ++ (" at line ".toList ++ (toString line).toList) := by
  simp only [message, String.toList_append, List.append_assoc]

theorem ofFaultLine?_unexpected (line : Nat) (name : String) :
    ofFaultLine? (message ⟨line, .unexpectedClosing name⟩) =
      some ⟨line, .unexpectedClosing name⟩ := by
  have hcolon : Stops Char.isDigit (": Unexpected closing tag ".toList ++ name.toList) :=
    stops_cons.mpr rfl
  unfold ofFaultLine?
  simp only [toList_message_unexpected, dropPrefix?_append_self, takeNumber_append line hcolon,
    String.ofList_toList, Option.bind_eq_bind, Option.bind_some, Option.pure_def]

theorem ofFaultLine?_mismatch (line : Nat) {expected : String} (hw : IsWord expected)
    (openedAt : Nat) (found : String) :
    ofFaultLine? (message ⟨line, .mismatch expected openedAt found⟩) =
      some ⟨line, .mismatch expected openedAt found⟩ := by
  have hparen : Stops Char.isDigit ("), found ".toList ++ found.toList) := stops_cons.mpr rfl
  have hblank : Stops isWordChar (" (opened at ".toList ++ ((toString openedAt).toList ++
      ("), found ".toList ++ found.toList))) := stops_cons.mpr (by decide +kernel)
  have hcolon : Stops Char.isDigit (": Mismatch! Expected closing ".toList ++ (expected.toList ++
      (" (opened at ".toList ++ ((toString openedAt).toList ++
        ("), found ".toList ++ found.toList))))) := stops_cons.mpr rfl
  have hother : ∀ rest : List Char, (": Mismatch! Expected closing ".toList ++ rest).dropPrefix?
      ": Unexpected closing tag ".toList = none := fun _ => rfl
  unfold ofFaultLine?
  simp only [toList_message_mismatch, dropPrefix?_append_self, takeNumber_append line hcolon,
    hother, takeName_append hw hblank, takeNumber_append openedAt hparen, String.ofList_toList,
    Option.bind_eq_bind, Option.bind_some, Option.pure_def]

/-- **The line of a fault of a closing tag is read back.** -/
theorem ofFaultLine?_message (hd : d.isUnclosed = false)
    (hw : ∀ name ∈ d.fault.names, IsWord name) : ofFaultLine? d.message = some d := by
  obtain ⟨line, name | ⟨expected, openedAt, found⟩ | name⟩ := d
  · exact ofFaultLine?_unexpected line name
  · exact ofFaultLine?_mismatch line (hw expected (by simp [Fault.names])) openedAt found
  · exact Bool.noConfusion hd

/-- **The line of a tag left open is read back.** -/
theorem ofOpenLine?_message (hd : d.isUnclosed = true)
    (hw : ∀ name ∈ d.fault.names, IsWord name) : ofOpenLine? ("  " ++ d.message) = some d := by
  obtain ⟨line, name | ⟨expected, openedAt, found⟩ | name⟩ := d
  · exact Bool.noConfusion hd
  · exact Bool.noConfusion hd
  have hname : IsWord name := hw name (by simp [Fault.names])
  have hblank : Stops isWordChar (" at line ".toList ++ (toString line).toList) :=
    stops_cons.mpr (by decide +kernel)
  have hnumber : takeNumber (toString line).toList = (line, []) := by
    have h := takeNumber_append line (stops_nil Char.isDigit)
    rwa [List.append_nil] at h
  unfold ofOpenLine?
  simp only [String.toList_append, toList_message_unclosed, dropPrefix?_append_self,
    takeName_append hname hblank, hnumber, Option.bind_eq_bind, Option.bind_some, Option.pure_def]

theorem plain_message (hw : ∀ name ∈ d.fault.names, IsWord name) : Plain d.message.toList := by
  have hname : ∀ name ∈ d.fault.names, Plain name.toList := fun name h => plain_name (hw name h)
  obtain ⟨line, name | ⟨expected, openedAt, found⟩ | name⟩ := d
  · rw [toList_message_unexpected]
    refine .append (by decide) (.append (plain_number line) (.append (by decide) ?_))
    exact hname name (by simp [Fault.names])
  · rw [toList_message_mismatch]
    refine .append (by decide) (.append (plain_number line) (.append (by decide) (.append ?_
      (.append (by decide) (.append (plain_number openedAt) (.append (by decide) ?_))))))
    · exact hname expected (by simp [Fault.names])
    · exact hname found (by simp [Fault.names])
  · rw [toList_message_unclosed]
    refine .append ?_ (.append (by decide) (plain_number line))
    exact hname name (by simp [Fault.names])

theorem head?_message (hd : d.isUnclosed = false) : d.message.toList.head? = some 'L' := by
  obtain ⟨line, name | ⟨expected, openedAt, found⟩ | name⟩ := d
  · rw [toList_message_unexpected]
    rfl
  · rw [toList_message_mismatch]
    rfl
  · exact Bool.noConfusion hd

end Diagnostic

/-! ### All lines -/

namespace Report

/-- **A report that its text tells**: the faults of closing tags stand first, no tag is left open
after a halt, and the names are made of word characters. -/
structure Legible (r : Report) : Prop where
  split : r.diagnostics = r.closingFaults ++ r.unclosed
  halt : r.halted = true → r.unclosed = []
  named : ∀ d ∈ r.diagnostics, ∀ name ∈ d.fault.names, IsWord name

theorem trailer_of_halted {r : Report} (h : r.halted = true) : r.trailer = [] := by
  unfold trailer
  rw [h]
  rfl

theorem trailer_of_not_halted {r : Report} (h : r.halted = false) :
    ∃ first, isTrailer first = true ∧
      r.trailer = first :: r.unclosed.map fun d => "  " ++ d.message := by
  unfold trailer
  rw [h]
  rcases r.unclosed with _ | ⟨d, ds⟩
  · exact ⟨balancedLine, by decide, rfl⟩
  · exact ⟨unclosedHeading, by decide, rfl⟩

theorem isTrailer_message {d : Diagnostic} (hd : d.isUnclosed = false) :
    isTrailer d.message = false := by
  have hhead := d.head?_message hd
  rw [Bool.eq_false_iff]
  intro h
  simp only [isTrailer, Bool.or_eq_true, decide_eq_true_eq] at h
  rcases h with h | h
  · rw [h] at hhead
    exact absurd hhead (by decide)
  · rw [h] at hhead
    exact absurd hhead (by decide)

theorem isUnclosed_of_mem_closingFaults {r : Report} {d : Diagnostic} (hd : d ∈ r.closingFaults) :
    d.isUnclosed = false := by
  simpa using (List.mem_filter.mp hd).2

namespace Legible

variable {r : Report} (h : r.Legible)
include h

theorem plain_textLines : ∀ line ∈ r.textLines, Plain line.toList := by
  have hmessage : ∀ d ∈ r.diagnostics, Plain d.message.toList := fun d hd =>
    d.plain_message (h.named d hd)
  intro line hline
  unfold textLines at hline
  rcases List.mem_append.mp hline with hline | hline
  · obtain ⟨d, hd, rfl⟩ := List.mem_map.mp hline
    exact hmessage d (List.mem_filter.mp hd).1
  rcases hh : r.halted with _ | _
  · obtain ⟨first, hfirst, htrailer⟩ := trailer_of_not_halted hh
    rw [htrailer] at hline
    rcases List.mem_cons.mp hline with rfl | hline
    · simp only [isTrailer, Bool.or_eq_true, decide_eq_true_eq] at hfirst
      rcases hfirst with rfl | rfl
      · decide
      · decide
    · obtain ⟨d, hd, rfl⟩ := List.mem_map.mp hline
      rw [String.toList_append]
      exact .append (by decide) (hmessage d (List.mem_filter.mp hd).1)
  · rw [trailer_of_halted hh] at hline
    exact absurd hline List.not_mem_nil

theorem mapM_closingFaults :
    (r.closingFaults.map (·.message)).mapM Diagnostic.ofFaultLine? = some r.closingFaults :=
  mapM_map_eq_some fun d hd => d.ofFaultLine?_message (isUnclosed_of_mem_closingFaults hd)
    (h.named d (List.mem_filter.mp hd).1)

theorem mapM_unclosed :
    (r.unclosed.map fun d => "  " ++ d.message).mapM Diagnostic.ofOpenLine? = some r.unclosed :=
  mapM_map_eq_some fun d hd => d.ofOpenLine?_message (List.mem_filter.mp hd).2
    (h.named d (List.mem_filter.mp hd).1)

/-- **The diagnostics and the halt are read back from the text.** -/
theorem ofText?_toText : ofText? r.toText = some (r.diagnostics, r.halted) := by
  have hlines : linesOf r.toText = r.textLines := linesOf_unlines h.plain_textLines
  have hfaults : ∀ l ∈ r.closingFaults.map (·.message), (!isTrailer l) = true := by
    intro l hl
    obtain ⟨d, hd, rfl⟩ := List.mem_map.mp hl
    rw [isTrailer_message (isUnclosed_of_mem_closingFaults hd)]
    rfl
  unfold ofText?
  dsimp only
  rw [hlines, textLines, List.takeWhile_append_of_pos hfaults, List.dropWhile_append_of_pos hfaults]
  rcases hh : r.halted with _ | _
  · obtain ⟨first, hfirst, htrailer⟩ := trailer_of_not_halted hh
    rw [htrailer, List.takeWhile_cons_of_neg (by simp [hfirst]),
      List.dropWhile_cons_of_neg (by simp [hfirst]), List.append_nil, h.mapM_closingFaults,
      h.split]
    simp only [Option.bind_eq_bind, Option.bind_some, h.mapM_unclosed, Option.pure_def]
  · rw [trailer_of_halted hh, List.takeWhile_nil, List.dropWhile_nil, List.append_nil,
      h.mapM_closingFaults, h.split, h.halt hh, List.append_nil]
    rfl

/-- **Only a balanced report consists of the line that says so.** -/
theorem toText_eq_iff : r.toText = "All tags balanced!\n" ↔ r.isBalanced = true := by
  constructor
  · intro htext
    have hread := h.ofText?_toText
    have hempty : ofText? "All tags balanced!\n" = some ([], false) := by decide +kernel
    rw [htext, hempty, Option.some.injEq, Prod.mk.injEq] at hread
    unfold isBalanced
    rw [← hread.1, ← hread.2]
    rfl
  · intro hb
    obtain ⟨hh, hd⟩ : r.halted = false ∧ r.diagnostics = [] := by
      simpa [isBalanced] using hb
    unfold toText textLines trailer unclosed closingFaults
    rw [hh, hd]
    rfl

end Legible

end Report

theorem legible_checkLines (lines : List String) (p : Policy) : (checkLines lines p).Legible := by
  have hc := (Checker.onlyClosing_new p).feedAll 1 lines
  refine ⟨?_, ?_, fun d => isWord_of_mem_checkLines⟩
  · rw [checkLines_eq]
    exact hc.diagnostics_finish
  · rw [checkLines_eq]
    intro hh
    rw [hc.unclosed_finish]
    exact if_pos hh

/-- **The text of a report is unambiguous.**  Its diagnostics and whether the check has halted are
read back from it, so reports with the same text agree in both, whatever the documents and the
policies. -/
theorem toText_unambiguous :
    (∀ (document : String) (p : Policy),
      Report.ofText? (checkDocument document p).toText =
        some ((checkDocument document p).diagnostics, (checkDocument document p).halted)) ∧
    ∀ (document document' : String) (p p' : Policy),
      (checkDocument document p).toText = (checkDocument document' p').toText →
      (checkDocument document p).diagnostics = (checkDocument document' p').diagnostics ∧
      (checkDocument document p).halted = (checkDocument document' p').halted := by
  have hread : ∀ (document : String) (p : Policy),
      Report.ofText? (checkDocument document p).toText =
        some ((checkDocument document p).diagnostics, (checkDocument document p).halted) :=
    fun document p => (legible_checkLines (linesOf document) p).ofText?_toText
  refine ⟨hread, fun document document' p p' htext => ?_⟩
  have h := hread document p
  rw [htext, hread document' p', Option.some.injEq, Prod.mk.injEq] at h
  exact ⟨h.1.symm, h.2.symm⟩

/-- Two documents that differ in a comment, in the policy and in what follows the halt. -/
theorem toText_unambiguous_mixed :
    let document := "<div><p>\n</div> // </p>\n</i></été>\n"
    let document' := "<div><p>\n</div>\n</i></été><u>\n</u>"
    (checkDocument document .all).toText = (checkDocument document' .divOnly).toText ∧
    (checkDocument document .all).diagnostics = (checkDocument document' .divOnly).diagnostics ∧
    (checkDocument document .all).diagnostics = [⟨2, .mismatch "p" 1 "div"⟩,
      ⟨3, .mismatch "div" 1 "i"⟩, ⟨3, .unexpectedClosing "été"⟩] := by
  intro document document'
  have hlines : (checkDocument document .all).textLines =
      (checkDocument document' .divOnly).textLines := by decide +kernel
  have htext : (checkDocument document .all).toText =
      (checkDocument document' .divOnly).toText := congrArg unlines hlines
  exact ⟨htext, (toText_unambiguous.2 document document' .all .divOnly htext).1, by decide +kernel⟩

end TagNesting
