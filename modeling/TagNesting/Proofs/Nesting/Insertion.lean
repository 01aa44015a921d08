import Mathlib.Data.List.DropRight
import TagNesting.Proofs.Nesting.Run
import TagNesting.Proofs.Tag.Splitting

/-!
# Tags put into a line

A self-closing tag can be put into a line at any place that is not inside a tag, and the report stays
the same (`checkLines_insert`).  A place is not inside a tag if no `<` stands between the last `>`
before it and the place itself (`Settled`): then the matches of what follows are found as if the text
began there, and a scan falls into the scans of the two parts (`Scan.append_of_settled`).

The tag that is put in is given by its parts (`SilentTag`).  It neither completes nor breaks a `//`,
so the comment of the line stays what it was, and its text is one match, whatever its attributes hold
(`SilentTag.scan`).
-/

namespace TagNesting.Text

/-! ### Comments -/

/-- No `//` stands in a text. -/
def Unmarked (cs : List Char) : Prop := ¬ ['/', '/'] <:+: cs

instance (cs : List Char) : Decidable (Unmarked cs) := inferInstanceAs (Decidable (¬ _))

theorem Unmarked.of_cons {c : Char} {cs : List Char} (h : Unmarked (c :: cs)) : Unmarked cs :=
  fun hcs => h (List.infix_cons hcs)

theorem Unmarked.not_slash_slash {cs : List Char} : ¬ Unmarked ('/' :: '/' :: cs) :=
  fun h => h ((List.prefix_append ['/', '/'] cs).isInfix)

/-- A slash at the end of one text meets a slash at the start of the next. -/
def Meet (line more : List Char) : Prop := line.getLast? = some '/' ∧ more.head? = some '/'

instance (line more : List Char) : Decidable (Meet line more) := inferInstanceAs (Decidable (_ ∧ _))

/-- The comment of a line does not begin before the first place at which two slashes meet. -/
theorem beforeComment_append_of_unmarked {line more : List Char} (h : Unmarked line)
    (hmeet : ¬ Meet line more) : beforeComment (line ++ more) = line ++ beforeComment more := by
  induction line with
  | nil => rfl
  | cons c cs ih =>
    rcases beforeComment_cons_cases c (cs ++ more) with ⟨tail, rfl, htail⟩ | hstep
    · rcases cs with _ | ⟨d, cs⟩
      · have hmore : more = '/' :: tail := htail
        exact absurd ⟨rfl, by rw [hmore]; rfl⟩ hmeet
      · obtain ⟨rfl, -⟩ := List.cons.inj htail
        exact absurd h Unmarked.not_slash_slash
    · have hmeet' : ¬ Meet cs more := by
        rintro ⟨hlast, hhead⟩
        refine hmeet ⟨?_, hhead⟩
        rw [List.getLast?_cons, hlast]
        rfl
      rw [List.cons_append, hstep, ih h.of_cons hmeet']
      rfl

end TagNesting.Text

namespace TagNesting.Reference

open TagNesting.Text TagNesting.Text.WordClass

/-! ### Places that are not inside a tag -/

/-- **No `<` stands after the last `>`** of a text. -/
def Settled (cs : List Char) : Prop := '<' ∉ cs.rtakeWhile (· ≠ '>')

instance (cs : List Char) : Decidable (Settled cs) := inferInstanceAs (Decidable (¬ _))

variable {text more : List Char} {pos i : Nat} {ms ns : List Match}

theorem settled_concat_gt (cs : List Char) : Settled (cs ++ ['>']) := by
  unfold Settled
  rw [List.rtakeWhile_concat_neg _ _ _ (by simp)]
  exact List.not_mem_nil

/-- Every `<` of a settled text has a `>` after it. -/
theorem Settled.gt_mem (h : Settled text) {rest : List Char} (hdrop : text.drop i = '<' :: rest) :
    '>' ∈ rest := by
  by_contra hgt
  apply h
  have hall : ∀ c ∈ ('<' :: rest).reverse, decide (c ≠ '>') = true := by
    intro c hc
    rw [List.mem_reverse, List.mem_cons] at hc
    rw [decide_eq_true_eq]
    rintro rfl
    rcases hc with hc | hc
    · exact absurd hc (by decide)
    · exact hgt hc
  unfold List.rtakeWhile
  rw [← List.take_append_drop i text, hdrop, List.reverse_append,
    List.takeWhile_append_of_pos hall]
  simp

theorem BeginsAt.drop_eq (h : BeginsAt text i) : ∃ rest, text.drop i = '<' :: rest := by
  obtain ⟨⟨c, -, hpre | hpre⟩, -⟩ := h.shape
  · obtain ⟨rest, hrest⟩ := hpre
    exact ⟨_, hrest.symm⟩
  · obtain ⟨rest, hrest⟩ := hpre
    exact ⟨_, hrest.symm⟩

namespace Scan

/-- A scan may begin earlier if no tag begins in between. -/
theorem of_idle {pos' : Nat} (h : Scan text pos' ms) (hle : pos ≤ pos')
    (hidle : ∀ i, pos ≤ i → i < pos' → ¬ BeginsAt text i) : Scan text pos ms := by
  have hbefore : ∀ i, pos ≤ i → (pos' ≤ i → ¬ BeginsAt text i) → ¬ BeginsAt text i := by
    intro i hi hlater
    rcases Nat.lt_or_ge i pos' with hlt | hge
    · exact hidle i hi hlt
    · exact hlater hge
  cases h with
  | stop hnone => exact .stop fun i hi => hbefore i hi (hnone i)
  | take hpos hb hleast hfits hms =>
    exact .take (hle.trans hpos) hb (fun i hi hlt => hbefore i hi fun hge => hleast i hge hlt)
      hfits hms

/-- After its last match no tag begins in a settled text, however it goes on. -/
theorem not_beginsAt_append (h : Scan text 0 ms) (hs : Settled text) (hi : placeAfter 0 ms ≤ i)
    (hlt : i < text.length) : ¬ BeginsAt (text ++ more) i := by
  intro hb
  obtain ⟨rest, hrest⟩ := hb.drop_eq
  rw [List.drop_append_of_le_length hlt.le, List.drop_eq_getElem_cons hlt, List.cons_append] at hrest
  have hdrop : text.drop i = '<' :: text.drop (i + 1) := by
    rw [List.drop_eq_getElem_cons hlt, (List.cons.inj hrest).1]
  have hgt : '>' ∈ text.drop i := by
    rw [hdrop]
    exact List.mem_cons_of_mem _ (hs.gt_mem hdrop)
  exact h.not_beginsAt_of_placeAfter_le hi ((beginsAt_append_iff hgt more).mp hb)

/-- **A scan falls into two at a place that is not inside a tag.** -/
theorem append_of_settled (h : Scan text 0 ms) (hs : Settled text) (h' : Scan more 0 ns) :
    Scan (text ++ more) 0 (ms ++ ns.map (Match.shift text.length)) := by
  have hmore : Scan ((text ++ more).drop text.length) 0 ns := by
    rw [List.drop_left]
    exact h'
  have hfrom := hmore.shift
  rw [Nat.add_zero] at hfrom
  refine h.resume (hfrom.of_idle (h.placeAfter_le (Nat.zero_le _)) fun i hi hlt => ?_)
  exact h.not_beginsAt_append hs hi hlt

end Scan

theorem tagsOfText_append_of_settled (number : Nat) {text : String} (hs : Settled text.toList)
    (more : String) :
    tagsOfText number (text ++ more) = tagsOfText number text ++ tagsOfText number more := by
  obtain ⟨ms, hms⟩ := exists_scan text.toList
  obtain ⟨ns, hns⟩ := exists_scan more.toList
  have htext := (hms ms).mpr rfl
  have hmore := (hns ns).mpr rfl
  have hboth := htext.append_of_settled hs hmore
  rw [← String.toList_append] at hboth
  rw [tagsOfText_of_scan number htext, tagsOfText_of_scan number hmore,
    tagsOfText_of_scan number hboth, List.map_append, List.map_map]
  rfl

end TagNesting.Reference

namespace TagNesting

open TagNesting.Text TagNesting.Text.WordClass TagNesting.Reference

/-! ### Tags that leave the nesting as it is -/

/-- A tag by its parts. -/
structure TagParts where
  /-- Whether a slash follows the `<`. -/
  slash : Bool
  name : String
  /-- What stands between the name and the `>`. -/
  attributes : String

/-- The text of a tag. -/
def TagParts.text (u : TagParts) : String :=
  "<" ++ (if u.slash then "/" else "") ++ u.name ++ u.attributes ++ ">"

/-- **A tag that leaves the nesting as it is**: its attributes end with a slash, or it is a void
element.  The name is as long as it can be, the attributes hold no `>`, and no comment begins in the
tag. -/
structure SilentTag extends TagParts where
  name_ne : name ≠ ""
  name_word : ∀ c ∈ name.toList, isWordChar c = true
  name_ends : ∀ c ∈ attributes.toList.head?, isWordChar c = false
  gt_notMem : '>' ∉ attributes.toList
  unmarked : Unmarked toTagParts.text.toList
  silent : attributes.toList.getLast? = some '/' ∨ slash = false ∧ name ∈ voidElements

namespace SilentTag

variable (u : SilentTag)

/-- The slash after the `<`, if there is one. -/
def slashChars : List Char := if u.slash then ['/'] else []

theorem slashChars_cases : u.slashChars = [] ∨ u.slashChars = ['/'] := by
  unfold slashChars
  split
  · exact Or.inr rfl
  · exact Or.inl rfl

theorem toList_text : u.text.toList =
    '<' :: (u.slashChars ++ (u.name.toList ++ (u.attributes.toList ++ ['>']))) := by
  have hslash : (if u.slash then "/" else "").toList = u.slashChars := by
    unfold slashChars
    split <;> rfl
  unfold TagParts.text
  simp only [String.toList_append, hslash, List.append_assoc]
  rfl

theorem name_toList_ne : u.name.toList ≠ [] := by
  intro h
  exact u.name_ne (String.toList_eq_nil_iff.mp h)

theorem toList_text_concat : u.text.toList =
    '<' :: (u.slashChars ++ u.name.toList ++ u.attributes.toList) ++ ['>'] := by
  rw [toList_text]
  simp only [List.cons_append, List.append_assoc]

theorem settled : Settled u.text.toList := by
  rw [toList_text_concat]
  exact settled_concat_gt _

/-- The match that the tag is. -/
def toMatch : Match := ⟨0, u.text.toList, u.name.toList⟩

theorem fits : u.toMatch.Fits u.text.toList where
  here := List.prefix_rfl
  ends := by
    refine ⟨_, u.toList_text_concat, fun h => ?_⟩
    rcases List.mem_cons.mp h with h | h
    · exact absurd h (by decide)
    rcases List.mem_append.mp h with h | h
    · exact gt_notMem_front u.slashChars_cases u.name_word h
    · exact u.gt_notMem h
  named := by
    refine ⟨u.slashChars, u.attributes.toList ++ ['>'], u.toList_text, u.slashChars_cases,
      u.name_toList_ne, u.name_word, fun c hc => ?_⟩
    rw [List.head?_append] at hc
    rcases hhead : u.attributes.toList.head? with _ | d
    · rw [hhead] at hc
      obtain rfl : '>' = c := by simpa using hc
      exact not_word_gt
    · rw [hhead] at hc
      obtain rfl : d = c := by simpa using hc
      exact u.name_ends d hhead

/-- **The text of the tag is one match.** -/
theorem scan : Scan u.text.toList 0 [u.toMatch] := by
  refine .take (Nat.zero_le _) ?_ (fun i _ hlt => absurd hlt (Nat.not_lt_zero i)) u.fits
    (.stop fun i hi => ?_)
  · exact ⟨u.text.toList, ⟨u.slashChars, u.name.toList, u.attributes.toList, u.toList_text,
      u.slashChars_cases, u.name_toList_ne, u.name_word, u.gt_notMem⟩, List.prefix_rfl⟩
  · have hlen : u.text.toList.length ≤ i := by
      have hstop : u.toMatch.stop = 0 + u.text.toList.length := rfl
      omega
    unfold BeginsAt
    rw [List.drop_of_length_le hlen]
    exact not_begins_nil

theorem classify : Kind.classify u.text.toList u.name = .selfClosing := by
  unfold Kind.classify
  rcases u.silent with hlast | ⟨hslash, hvoid⟩
  · obtain ⟨front, hfront⟩ := List.getLast?_eq_some_iff.mp hlast
    have hsuffix : ['/', '>'] <:+ u.text.toList := by
      refine ⟨'<' :: (u.slashChars ++ (u.name.toList ++ front)), ?_⟩
      rw [toList_text, hfront]
      simp
    rw [if_pos (List.isSuffixOf_iff_suffix.mpr hsuffix)]
  · have hprefix : ¬ ['<', '/'].isPrefixOf u.text.toList = true := by
      obtain ⟨c, cs, hname⟩ := List.exists_cons_of_ne_nil u.name_toList_ne
      have hc : c ≠ '/' := by
        rintro rfl
        have hword := u.name_word '/' (by rw [hname]; exact List.mem_cons_self)
        rw [not_word_slash] at hword
        exact Bool.noConfusion hword
      rw [toList_text, slashChars, hslash, hname]
      simpa using fun h : '/' = c => hc h.symm
    rw [if_neg hprefix, if_pos hvoid, ite_self]

theorem tagsOfText_eq (number : Nat) :
    tagsOfText number u.text = [⟨.selfClosing, u.name, number⟩] := by
  rw [tagsOfText_of_scan number u.scan, List.map_singleton]
  unfold Match.tag toMatch
  rw [String.ofList_toList, u.classify]

end SilentTag

/-! ### The tag in its place -/

theorem tagsOfLine_eq_of_unmarked (number : Nat) {front back : String}
    (hmark : Unmarked front.toList) (hsettled : Settled front.toList)
    (hmeet : ¬ Meet front.toList back.toList) :
    tagsOfLine number (front ++ back) = tagsOfText number front ++ tagsOfLine number back := by
  have hback : tagsOfLine number back = tagsOfText number (stripComment back) := by
    unfold tagsOfLine tagsOfText Cursor.ofLine Cursor.ofText stripComment
    rw [String.toList_ofList]
  have hline : tagsOfLine number (front ++ back) =
      tagsOfText number (front ++ stripComment back) := by
    unfold tagsOfLine tagsOfText Cursor.ofLine Cursor.ofText stripComment
    rw [String.toList_append, beforeComment_append_of_unmarked hmark hmeet, String.toList_append,
      String.toList_ofList]
  rw [hline, hback, tagsOfText_append_of_settled number hsettled]

/-- **The tag put in is one more tag of the line**, and the others stay as they are. -/
theorem tagsOfLine_insert (number : Nat) {front back : String} (hmark : Unmarked front.toList)
    (hsettled : Settled front.toList) (hmeet : ¬ Meet front.toList back.toList) (u : SilentTag) :
    ∃ ts us, tagsOfLine number (front ++ back) = ts ++ us ∧
      tagsOfLine number (front ++ u.text ++ back) =
        ts ++ ⟨.selfClosing, u.name, number⟩ :: us := by
  -- the tag begins with `<` and ends with `>`, so no slash can meet one of its own
  have hbefore : ¬ Meet front.toList (u.text ++ back).toList := by
    rintro ⟨-, hhead⟩
    rw [String.toList_append, u.toList_text] at hhead
    exact absurd hhead (by simp)
  have hafter : ¬ Meet u.text.toList back.toList := by
    rintro ⟨hlast, -⟩
    rw [u.toList_text_concat, List.getLast?_concat] at hlast
    exact absurd hlast (by decide)
  refine ⟨tagsOfText number front, tagsOfLine number back,
    tagsOfLine_eq_of_unmarked number hmark hsettled hmeet, ?_⟩
  rw [String.append_assoc, tagsOfLine_eq_of_unmarked number hmark hsettled hbefore,
    tagsOfLine_eq_of_unmarked number u.unmarked u.settled hafter, u.tagsOfText_eq]
  rfl

theorem Checker.run_selfClosing (c : Checker) (ts us : List Tag) {t : Tag}
    (ht : t.kind = .selfClosing) : c.run (ts ++ t :: us) = c.run (ts ++ us) := by
  rw [run_append, run_cons, apply_selfClosing _ ht, ← run_append]

/-- **A tag that leaves the nesting as it is can be put into a line** wherever no comment and no tag
has begun and no two slashes are torn apart, and the report stays the same. -/
theorem checkLines_insert (before after : List String) (front back : String) (u : SilentTag)
    (p : Policy) (hmark : Unmarked front.toList) (hsettled : Settled front.toList)
    (hmeet : ¬ Meet front.toList back.toList) :
    checkLines (before ++ (front ++ u.text ++ back) :: after) p =
      checkLines (before ++ (front ++ back) :: after) p := by
  have hfeed : ∀ (c : Checker) (number : Nat),
      c.feed number (front ++ u.text ++ back) = c.feed number (front ++ back) := by
    intro c number
    obtain ⟨ts, us, hline, hinsert⟩ := tagsOfLine_insert number hmark hsettled hmeet u
    unfold Checker.feed
    rw [hline, hinsert, Checker.run_selfClosing _ _ _ rfl]
  rw [checkLines_eq, checkLines_eq, Checker.feedAll_append, Checker.feedAll_append,
    Checker.feedAll, Checker.feedAll, hfeed]

/-- A tag with a slash on both sides and a `<` inside, put after a slash into a line on which the
check halts. -/
theorem checkLines_insert_before_halt :
    let u : SilentTag :=
      { slash := true, name := "x", attributes := " y='<b' /", name_ne := by decide,
        name_word := List.all_eq_true.mp (by decide +kernel),
        name_ends := by
          intro c hc
          obtain rfl : ' ' = c := by simpa using hc
          decide +kernel,
        gt_notMem := by decide,
        unmarked := by decide +kernel, silent := Or.inl (by decide +kernel) }
    let front := "<p>1 < 2> /"
    let back := "</p></i></div><b>// <u>"
    u.text = "</x y='<b' />" ∧ Unmarked front.toList ∧ Settled front.toList ∧
    ¬ Meet front.toList back.toList ∧
    checkLines (["<div>"] ++ (front ++ u.text ++ back) :: ["</u>"]) .divOnly =
      checkLines (["<div>"] ++ (front ++ back) :: ["</u>"]) .divOnly ∧
    checkLines (["<div>"] ++ (front ++ back) :: ["</u>"]) .divOnly =
      ⟨[⟨2, .mismatch "div" 1 "i"⟩, ⟨2, .unexpectedClosing "div"⟩], true, 2⟩ := by
  intro u front back
  have hmark : Unmarked front.toList := by decide +kernel
  have hsettled : Settled front.toList := by decide +kernel
  have hmeet : ¬ Meet front.toList back.toList := by decide +kernel
  exact ⟨by decide +kernel, hmark, hsettled, hmeet,
    checkLines_insert ["<div>"] ["</u>"] front back u .divOnly hmark hsettled hmeet,
    by decide +kernel⟩

end TagNesting
