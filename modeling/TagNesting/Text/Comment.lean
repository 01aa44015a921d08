/-!
# Line comments

A comment begins at the first `//` of a line, wherever that stands, and runs to the line's end; only
the text before it is searched for tags.  `beforeComment` passes over the line once, and the three
equations below say what it yields at the line's end, at the mark and at any other character.
-/

namespace TagNesting.Text

/-- The characters passed so far, newest first, are put back in order once the line's end or the
mark is reached. -/
def beforeCommentFrom (passed : List Char) : List Char → List Char
  | [] => passed.reverse
  | '/' :: '/' :: _ => passed.reverse
  | c :: cs => beforeCommentFrom (c :: passed) cs

/-- **The text before the first `//`**, or the whole line if it has none. -/
def beforeComment (line : List Char) : List Char := beforeCommentFrom [] line

/-- The line without its comment. -/
def stripComment (line : String) : String := String.ofList (beforeComment line.toList)

theorem beforeCommentFrom_eq (line : List Char) : ∀ passed : List Char,
    beforeCommentFrom passed line = passed.reverse ++ beforeComment line := by
  have main : ∀ passed more : List Char, beforeCommentFrom (passed ++ more) line =
      more.reverse ++ beforeCommentFrom passed line := by
    intro passed more
    fun_induction beforeCommentFrom passed line with
    | case1 passed => simp [beforeCommentFrom]
    | case2 passed tail => simp [beforeCommentFrom]
    | case3 passed c cs h ih =>
      rw [beforeCommentFrom.eq_3 _ _ _ h]
      exact ih
  intro passed
  simpa [beforeComment] using main [] passed

@[simp] theorem beforeComment_nil : beforeComment [] = [] := rfl

@[simp] theorem beforeComment_mark (cs : List Char) : beforeComment ('/' :: '/' :: cs) = [] := rfl

theorem beforeComment_cons {c : Char} {cs : List Char}
    (h : ∀ tail, c = '/' → cs = '/' :: tail → False) :
    beforeComment (c :: cs) = c :: beforeComment cs := by
  unfold beforeComment
  rw [beforeCommentFrom.eq_3 [] c cs h, beforeCommentFrom_eq]
  rfl

end TagNesting.Text
