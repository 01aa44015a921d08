import Mathlib.Data.List.Forall2
import TagNesting.Proofs.Text.Growth

/-!
# Lines and their terminators

A line feed, with or without a carriage return before it, ends a line.  `Written lines document`
says that the document holds these lines in order, each with a terminator of its own choice; only
the last one may lack it, unless it is empty.

* `linesOf_written`: the lines read back are the lines written, but one that ends in a carriage
  return may lose it to the line feed after it.
* `exists_written`: every document is written so, and still is, with the same lines, after a
  carriage return has been put before each of its line feeds.
-/

namespace TagNesting.Text

/-! ### Terminators -/

/-- What ends a line. -/
inductive Terminator where
  | lf
  | crlf
  deriving DecidableEq, Repr

/-- The characters of a terminator. -/
def Terminator.text : Terminator → String
  | .lf => "\n"
  | .crlf => "\r\n"

/-- **A document that holds lines**, each ended by a terminator; the last one may lack it if it is
not empty. -/
inductive Written : List String → String → Prop
  | nil : Written [] ""
  | last {line : String} : line ≠ "" → Written [line] line
  | cons (line : String) (e : Terminator) {lines : List String} {document : String} :
      Written lines document → Written (line :: lines) (line ++ e.text ++ document)

/-- The document with a carriage return put before every line feed. -/
def withReturns (document : String) : String :=
  String.ofList (document.toList.flatMap fun c => if c = '\n' then ['\r', '\n'] else [c])

/-- A line is read back as it was written, or without the carriage return at its end. -/
def ReadAs (line line' : String) : Prop := line' = line ∨ line = line' ++ "\r"

/-- The text of a line that a line feed ends. -/
def endedLine (line : String) : String := String.ofList (Splitter.lineOf line.toList.reverse)

theorem readAs_endedLine (line : String) : ReadAs line (endedLine line) := by
  rcases Splitter.lineOf_cases line.toList.reverse with h | h
  · left
    unfold endedLine
    rw [h, List.reverse_reverse, String.ofList_toList]
  · right
    rw [List.reverse_reverse] at h
    apply String.toList_injective
    rw [String.toList_append, endedLine, String.toList_ofList]
    exact h

theorem endedLine_append_return (line : String) : endedLine (line ++ "\r") = line := by
  have h : (line ++ "\r").toList.reverse = '\r' :: line.toList.reverse := by simp
  unfold endedLine
  rw [h, Splitter.lineOf, List.reverse_reverse, String.ofList_toList]

/-! ### Reading one line -/

/-- Reading text without a line feed only makes the line that has begun longer. -/
theorem Splitter.foldl_step_of_notMem {text : List Char} (h : '\n' ∉ text) (s : Splitter) :
    text.foldl step s = ⟨s.ended, text.reverse ++ s.current⟩ := by
  induction text generalizing s with
  | nil => rfl
  | cons c text ih =>
    have hc : c ≠ '\n' := fun e => h (e ▸ List.mem_cons_self)
    have ht : '\n' ∉ text := fun hmem => h (List.mem_cons_of_mem c hmem)
    rw [List.foldl_cons, step_of_ne s hc, ih ht]
    simp

theorem splitLines_append_lf (text more : List Char) :
    splitLines (text ++ '\n' :: more) = splitLines (text ++ ['\n']) ++ splitLines more := by
  unfold splitLines
  rw [List.foldl_append, List.foldl_append, List.foldl_cons, List.foldl_cons, List.foldl_nil,
    Splitter.step_lf, Splitter.foldl_step_ended]
  rfl

theorem linesOf_append_lf (document more : String) :
    linesOf (document ++ "\n" ++ more) = linesOf (document ++ "\n") ++ linesOf more := by
  have hall : (document ++ "\n" ++ more).toList = document.toList ++ '\n' :: more.toList := by simp
  have hfirst : (document ++ "\n").toList = document.toList ++ ['\n'] := by simp
  unfold linesOf
  rw [hall, hfirst, splitLines_append_lf, List.map_append]

theorem linesOf_terminated {line : String} (h : '\n' ∉ line.toList) :
    linesOf (line ++ "\n") = [endedLine line] := by
  have hline : (line ++ "\n").toList = line.toList ++ ['\n'] := by simp
  unfold linesOf splitLines
  rw [hline, List.foldl_append, Splitter.foldl_step_of_notMem h, List.foldl_cons, List.foldl_nil,
    Splitter.step_lf]
  simp [Splitter.lines, Splitter.empty, endedLine]

/-- **A terminated line is the first one.** -/
theorem linesOf_cons {line : String} (h : '\n' ∉ line.toList) (document : String) :
    linesOf (line ++ "\n" ++ document) = endedLine line :: linesOf document := by
  rw [linesOf_append_lf, linesOf_terminated h, List.singleton_append]

theorem endedLine_eq_self {line : String} (h : '\r' ∉ line.toList) : endedLine line = line := by
  rcases readAs_endedLine line with he | he
  · exact he
  · rw [he] at h
    exact absurd (by simp) h

/-- **Lines are found again in the text made of them**, if they hold no line end. -/
theorem linesOf_unlines {lines : List String}
    (h : ∀ line ∈ lines, '\n' ∉ line.toList ∧ '\r' ∉ line.toList) :
    linesOf (unlines lines) = lines := by
  induction lines with
  | nil => rfl
  | cons line lines ih =>
    obtain ⟨hlf, hcr⟩ := h line List.mem_cons_self
    have hrest := ih fun l hl => h l (List.mem_cons_of_mem line hl)
    have hsplit : unlines (line :: lines) = line ++ "\n" ++ unlines lines := by
      apply String.toList_injective
      simp [unlines]
    rw [hsplit, linesOf_cons hlf, endedLine_eq_self hcr, hrest]

/-- A line that nothing ends is a line if it holds any character. -/
theorem linesOf_last {line : String} (h : '\n' ∉ line.toList) (hne : line ≠ "") :
    linesOf line = [line] := by
  have hlist : line.toList ≠ [] := by simpa using hne
  unfold linesOf splitLines
  rw [Splitter.foldl_step_of_notMem h]
  simp [Splitter.lines, Splitter.empty, hlist]

/-- **The line at which a document ends**: what stands before it is read on its own. -/
theorem exists_begun (document : String) : ∃ head begun, document = head ++ begun ∧
    '\n' ∉ begun.toList ∧ ∀ more, linesOf (head ++ more) = linesOf head ++ linesOf more := by
  by_cases h : '\n' ∈ document.toList
  · -- the last line feed is the first one from behind
    obtain ⟨begun, head, hsplit, hbegun⟩ := List.eq_append_cons_of_mem (List.mem_reverse.mpr h)
    refine ⟨String.ofList head.reverse ++ "\n", String.ofList begun.reverse, ?_, ?_, ?_⟩
    · apply String.toList_injective
      rw [← List.reverse_reverse document.toList, hsplit]
      simp
    · simpa using hbegun
    · intro more
      exact linesOf_append_lf _ _
  · refine ⟨"", document, (String.empty_append).symm, h, ?_⟩
    intro more
    rw [String.empty_append]
    rfl

/-! ### Written documents -/

/-- **The lines of a written document.** -/
theorem linesOf_written {lines : List String} {document : String} (h : Written lines document)
    (hlf : ∀ line ∈ lines, '\n' ∉ line.toList) :
    List.Forall₂ ReadAs lines (linesOf document) := by
  induction h with
  | nil => exact .nil
  | @last line hne =>
    rw [linesOf_last (hlf line (by simp)) hne]
    exact .cons (Or.inl rfl) .nil
  | @cons line e lines document _ ih =>
    have hline := hlf line (by simp)
    have hrest := ih fun l hl => hlf l (List.mem_cons_of_mem line hl)
    rcases e with _ | _
    · rw [Terminator.text, linesOf_cons hline]
      exact .cons (readAs_endedLine line) hrest
    · -- of several carriage returns the line feed takes one, which is the terminator's own
      have hreturn : '\n' ∉ (line ++ "\r").toList := by simpa using hline
      have hsplit : line ++ "\r\n" ++ document = (line ++ "\r") ++ "\n" ++ document := by
        have hcrlf : "\r\n" = "\r" ++ "\n" := rfl
        rw [hcrlf, ← String.append_assoc]
      rw [Terminator.text, hsplit, linesOf_cons hreturn, endedLine_append_return]
      exact .cons (Or.inl rfl) hrest

/-- Text put before a document is put before its first line. -/
theorem Written.prepend {line : String} {lines : List String} {document : String}
    (h : Written (line :: lines) document) {text : String} (ht : text ≠ "") :
    Written ((text ++ line) :: lines) (text ++ document) := by
  cases h with
  | last _ =>
    refine .last ?_
    simp [ht]
  | cons _ e h =>
    rw [← String.append_assoc, ← String.append_assoc]
    exact .cons (text ++ line) e h

theorem written_nil {document : String} (h : Written [] document) : document = "" := by
  cases h
  rfl

theorem withReturns_lf (cs : List Char) :
    withReturns (String.ofList ('\n' :: cs)) = "" ++ "\r\n" ++ withReturns (String.ofList cs) := by
  apply String.toList_injective
  simp [withReturns]

theorem withReturns_of_ne {c : Char} (hc : c ≠ '\n') (cs : List Char) :
    withReturns (String.ofList (c :: cs)) =
      String.singleton c ++ withReturns (String.ofList cs) := by
  apply String.toList_injective
  simp [withReturns, hc]

/-- **Every document is written line by line**, and a carriage return before each line feed leaves
the lines as they are. -/
theorem exists_written (document : String) : ∃ lines, (∀ line ∈ lines, '\n' ∉ line.toList) ∧
    Written lines document ∧ Written lines (withReturns document) := by
  rw [← String.ofList_toList (s := document)]
  induction document.toList with
  | nil => exact ⟨[], by simp, .nil, .nil⟩
  | cons c cs ih =>
    obtain ⟨lines, hlf, h, h'⟩ := ih
    by_cases hc : c = '\n'
    · subst hc
      refine ⟨"" :: lines, ?_, ?_, ?_⟩
      · simpa using hlf
      · have hsplit : String.ofList ('\n' :: cs) = "" ++ "\n" ++ String.ofList cs := by
          apply String.toList_injective
          simp
        rw [hsplit]
        exact .cons "" .lf h
      · rw [withReturns_lf]
        exact .cons "" .crlf h'
    · have hne : String.singleton c ≠ "" := by simp
      have hsplit : String.ofList (c :: cs) = String.singleton c ++ String.ofList cs := by
        apply String.toList_injective
        simp
      rw [withReturns_of_ne hc, hsplit]
      rcases lines with _ | ⟨line, lines⟩
      · rw [written_nil h', written_nil h]
        refine ⟨[String.singleton c ++ ""], ?_, ?_, ?_⟩
        · simpa using Ne.symm hc
        · exact .last (by simp)
        · exact .last (by simp)
      · refine ⟨(String.singleton c ++ line) :: lines, ?_, h.prepend hne, h'.prepend hne⟩
        have hfirst := hlf line (by simp)
        intro l hl
        rcases List.mem_cons.mp hl with rfl | hl
        · simpa [Ne.symm hc] using hfirst
        · exact hlf l (List.mem_cons_of_mem line hl)

end TagNesting.Text
