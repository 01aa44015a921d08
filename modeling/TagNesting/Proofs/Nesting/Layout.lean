import TagNesting.Proofs.Nesting.Run
import TagNesting.Proofs.Tag.Resume
import TagNesting.Proofs.Text.Terminators

/-!
# Line ends and comments

A check sees nothing of a line but its tags (`checkLines_congr`), and neither a carriage return at
the end of a line nor a comment changes those.  So the report on a document depends neither on how
its lines are ended (`checkDocument_written`) nor on what its comments say
(`checkDocument_comment`).
-/

namespace TagNesting

open TagNesting.Text

/-! ### Lines with the same tags -/

/-- The lines hold the same tags, whatever their number. -/
def SameTags (line line' : String) : Prop :=
  ∀ number, tagsOfLine number line = tagsOfLine number line'

namespace SameTags

variable {line line' line'' : String}

theorem refl (line : String) : SameTags line line := fun _ => rfl

theorem symm (h : SameTags line line') : SameTags line' line := fun number => (h number).symm

theorem trans (h : SameTags line line') (h' : SameTags line' line'') : SameTags line line'' :=
  fun number => (h number).trans (h' number)

theorem append_return (line : String) : SameTags (line ++ "\r") line := by
  intro number
  have h := tagsOfLine_concat_return number line.toList
  rwa [String.ofList_append, String.ofList_toList] at h

theorem append_comment (line comment : String) : SameTags (line ++ "//" ++ comment) line := by
  intro number
  have hsplit : line ++ "//" ++ comment =
      String.ofList (line.toList ++ '/' :: '/' :: comment.toList) := by
    apply String.toList_injective
    simp
  have h := tagsOfLine_append_mark number line.toList comment.toList
  rwa [← hsplit, String.ofList_toList] at h

theorem of_readAs (h : ReadAs line line') : SameTags line line' := by
  rcases h with rfl | rfl
  · exact refl line'
  · exact append_return line'

theorem endedLine (h : SameTags line line') : SameTags (endedLine line) (endedLine line') :=
  ((of_readAs (readAs_endedLine line)).symm.trans h).trans (of_readAs (readAs_endedLine line'))

end SameTags

theorem Checker.feed_congr {line line' : String} (h : SameTags line line') (c : Checker)
    (number : Nat) : c.feed number line = c.feed number line' := by
  unfold Checker.feed
  rw [h number]

theorem Checker.feedAll_congr {lines lines' : List String}
    (h : List.Forall₂ SameTags lines lines') (c : Checker) (number : Nat) :
    c.feedAll number lines = c.feedAll number lines' := by
  induction h generalizing c number with
  | nil => rfl
  | cons hline _ ih => rw [feedAll, feedAll, feed_congr hline, ih]

/-- **A check sees of each line only its tags.** -/
theorem checkLines_congr {lines lines' : List String} (h : List.Forall₂ SameTags lines lines')
    (p : Policy) : checkLines lines p = checkLines lines' p := by
  rw [checkLines_eq, checkLines_eq, Checker.feedAll_congr h]

/-! ### Line ends -/

theorem checkDocument_eq_of_written {lines : List String} {document : String}
    (hlf : ∀ line ∈ lines, '\n' ∉ line.toList) (h : Written lines document) (p : Policy) :
    checkDocument document p = checkLines lines p := by
  have hread := linesOf_written h hlf
  exact (checkLines_congr (hread.imp fun _ _ => SameTags.of_readAs) p).symm

/-- **Line terminators do not matter.**  A document that holds lines, each ended by a line feed with
or without a carriage return before it, or not ended if it is the last one and not empty, has the
report of these lines, which may hold carriage returns themselves.  So a carriage return put before
every line feed of any document leaves its report as it is. -/
theorem checkDocument_written (p : Policy) :
    (∀ (lines : List String) (document : String), (∀ line ∈ lines, '\n' ∉ line.toList) →
      Written lines document → checkDocument document p = checkLines lines p) ∧
    ∀ document, checkDocument (withReturns document) p = checkDocument document p := by
  refine ⟨fun lines document hlf h => checkDocument_eq_of_written hlf h p, fun document => ?_⟩
  obtain ⟨lines, hlf, h, h'⟩ := exists_written document
  rw [checkDocument_eq_of_written hlf h, checkDocument_eq_of_written hlf h']

/-- The first line loses its carriage return, the second one has two, and the last one is not
ended. -/
theorem checkDocument_written_mixed :
    let lines := ["<div>\r", "</p>\r", "", "</a>\r"]
    Written lines "<div>\r\n</p>\r\r\n\n</a>\r" ∧
    linesOf "<div>\r\n</p>\r\r\n\n</a>\r" = ["<div>", "</p>\r", "", "</a>\r"] ∧
    checkDocument "<div>\r\n</p>\r\r\n\n</a>\r" .divOnly = checkLines lines .divOnly ∧
    checkLines lines .divOnly =
      ⟨[⟨2, .mismatch "div" 1 "p"⟩, ⟨4, .unexpectedClosing "a"⟩], true, 4⟩ := by
  intro lines
  have hlf : ∀ line ∈ lines, '\n' ∉ line.toList := by decide
  have hw : Written lines "<div>\r\n</p>\r\r\n\n</a>\r" :=
    .cons "<div>\r" .lf (.cons "</p>\r" .crlf (.cons "" .lf (.last (by decide))))
  exact ⟨hw, by decide +kernel, (checkDocument_written .divOnly).1 lines _ hlf hw,
    by decide +kernel⟩

/-! ### Comments -/

/-- A comment before a line feed can be left out. -/
theorem checkDocument_drop_comment {comment : String} (hc : '\n' ∉ comment.toList)
    (before after : String) (p : Policy) :
    checkDocument (before ++ "//" ++ comment ++ "\n" ++ after) p =
      checkDocument (before ++ "\n" ++ after) p := by
  obtain ⟨head, begun, rfl, hbegun, hhead⟩ := exists_begun before
  have hline : '\n' ∉ (begun ++ "//" ++ comment).toList := by simp [hbegun, hc]
  have hwith : linesOf (head ++ begun ++ "//" ++ comment ++ "\n" ++ after) =
      linesOf head ++ endedLine (begun ++ "//" ++ comment) :: linesOf after := by
    rw [← linesOf_cons hline, ← hhead]
    simp only [String.append_assoc]
  have hwithout : linesOf (head ++ begun ++ "\n" ++ after) =
      linesOf head ++ endedLine begun :: linesOf after := by
    rw [← linesOf_cons hbegun, ← hhead]
    simp only [String.append_assoc]
  unfold checkDocument
  rw [hwith, hwithout]
  refine checkLines_congr (List.rel_append ?_ (.cons ?_ ?_)) p
  · exact List.forall₂_same.mpr fun line _ => SameTags.refl line
  · exact (SameTags.append_comment begun comment).endedLine
  · exact List.forall₂_same.mpr fun line _ => SameTags.refl line

/-- Another comment at the end of a document makes no difference. -/
theorem checkDocument_last_comment {comment comment' : String} (hc : '\n' ∉ comment.toList)
    (hc' : '\n' ∉ comment'.toList) (before : String) (p : Policy) :
    checkDocument (before ++ "//" ++ comment) p = checkDocument (before ++ "//" ++ comment') p := by
  obtain ⟨head, begun, rfl, hbegun, hhead⟩ := exists_begun before
  have hlast : ∀ text : String, '\n' ∉ text.toList →
      linesOf (head ++ begun ++ "//" ++ text) = linesOf head ++ [begun ++ "//" ++ text] := by
    intro text ht
    have hline : '\n' ∉ (begun ++ "//" ++ text).toList := by simp [hbegun, ht]
    rw [← linesOf_last hline (by simp), ← hhead]
    simp only [String.append_assoc]
  unfold checkDocument
  rw [hlast comment hc, hlast comment' hc']
  refine checkLines_congr (List.rel_append ?_ (.cons ?_ .nil)) p
  · exact List.forall₂_same.mpr fun line _ => SameTags.refl line
  · exact (SameTags.append_comment begun comment).trans
      (SameTags.append_comment begun comment').symm

/-- **Comments cannot influence the report**: another comment in the place of one gives the same
report, and so does none where the line of the comment is ended. -/
theorem checkDocument_comment (before comment comment' after : String) (p : Policy)
    (hc : '\n' ∉ comment.toList) (hc' : '\n' ∉ comment'.toList)
    (ha : after = "" ∨ ∃ rest, after = "\n" ++ rest) :
    checkDocument (before ++ "//" ++ comment ++ after) p =
      checkDocument (before ++ "//" ++ comment' ++ after) p ∧
    ((∃ rest, after = "\n" ++ rest) →
      checkDocument (before ++ "//" ++ comment ++ after) p = checkDocument (before ++ after) p ∧
      checkDocument (before ++ "//" ++ comment' ++ after) p =
        checkDocument (before ++ after) p) := by
  have hdrop : ∀ text : String, '\n' ∉ text.toList → ∀ rest : String,
      checkDocument (before ++ "//" ++ text ++ ("\n" ++ rest)) p =
        checkDocument (before ++ ("\n" ++ rest)) p := by
    intro text ht rest
    rw [← String.append_assoc, ← String.append_assoc]
    exact checkDocument_drop_comment ht before rest p
  constructor
  · rcases ha with rfl | ⟨rest, rfl⟩
    · rw [String.append_empty, String.append_empty]
      exact checkDocument_last_comment hc hc' before p
    · rw [hdrop comment hc, hdrop comment' hc']
  · rintro ⟨rest, rfl⟩
    exact ⟨hdrop comment hc rest, hdrop comment' hc' rest⟩

/-- A comment inside an unfinished tag, right after a slash, with a carriage return at its end. -/
theorem checkDocument_comment_in_tag :
    let before := "<div>\n<p/"
    let after := "\n></i>"
    checkDocument (before ++ "//" ++ "></u>\r" ++ after) .all =
      checkDocument (before ++ "//" ++ "/" ++ after) .all ∧
    checkDocument (before ++ "//" ++ "></u>\r" ++ after) .all =
      checkDocument (before ++ after) .all ∧
    checkDocument (before ++ after) .all = ⟨[⟨3, .mismatch "div" 1 "i"⟩], false, 3⟩ := by
  intro before after
  have ha : ∃ rest, after = "\n" ++ rest := ⟨"></i>", rfl⟩
  obtain ⟨hother, hnone⟩ := checkDocument_comment before "></u>\r" "/" after .all (by decide)
    (by decide) (Or.inr ha)
  exact ⟨hother, (hnone ha).1, by decide +kernel⟩

end TagNesting
