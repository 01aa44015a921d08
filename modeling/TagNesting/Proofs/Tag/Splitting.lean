import TagNesting.Proofs.Tag.Resume

/-!
# Splitting a text anywhere

The reference scan of a text can be interrupted at any place and resumed later.  The matches of
`text ++ more` are those of `text`, and then those of what stands after the last of them together
with `more` (`Scan.resume`); the latter end in `more`, behind all of `text` (`Scan.length_lt_stop`).
What decides is that a `>` fixes everything before it: whether a tag begins at a place with a `>`
after it does not depend on how the text goes on (`beginsAt_append_iff`).

Leaving out the comment of a line cuts the line at its first `//` (`beforeComment_eq_take`), so the
tags before the comment are the matches in the whole line whose `>` stands before that place
(`Scan.filter_stop`).
-/

namespace TagNesting.Text

/-! ### The place of the comment -/

/-- The place of the first `//` of a line, or its end if there is none. -/
def markPlace (line : List Char) : Nat :=
  line.tails.findIdx fun rest => ['/', '/'].isPrefixOf rest || rest.isEmpty

theorem markPlace_mark (cs : List Char) : markPlace ('/' :: '/' :: cs) = 0 := by
  simp [markPlace, List.findIdx_cons]

theorem markPlace_cons {c : Char} {cs : List Char}
    (h : ∀ tail, c = '/' → cs = '/' :: tail → False) : markPlace (c :: cs) = markPlace cs + 1 := by
  have hmark : (['/', '/'].isPrefixOf (c :: cs)) = false := by
    rw [Bool.eq_false_iff, ne_eq, List.isPrefixOf_iff_prefix]
    rintro ⟨tail, he⟩
    obtain ⟨hc, hcs⟩ := List.cons.inj he
    exact h tail hc.symm hcs.symm
  unfold markPlace
  rw [List.tails_cons, List.findIdx_cons, hmark]
  rfl

/-- **Leaving out the comment cuts the line at the first `//`.** -/
theorem beforeComment_eq_take (line : List Char) :
    beforeComment line = line.take (markPlace line) := by
  induction line with
  | nil => rfl
  | cons c cs ih =>
    by_cases h : ∃ tail, c = '/' ∧ cs = '/' :: tail
    · obtain ⟨tail, rfl, rfl⟩ := h
      rw [beforeComment_mark, markPlace_mark, List.take_zero]
    · have h' : ∀ tail, c = '/' → cs = '/' :: tail → False := fun tail hc hcs => h ⟨tail, hc, hcs⟩
      rw [beforeComment_cons h', markPlace_cons h', List.take_succ_cons, ih]

theorem markPlace_le_length (line : List Char) : markPlace line ≤ line.length := by
  induction line with
  | nil => simp [markPlace]
  | cons c cs ih =>
    by_cases h : ∃ tail, c = '/' ∧ cs = '/' :: tail
    · obtain ⟨tail, rfl, rfl⟩ := h
      rw [markPlace_mark]
      omega
    · rw [markPlace_cons fun tail hc hcs => h ⟨tail, hc, hcs⟩, List.length_cons]
      omega

end TagNesting.Text

namespace TagNesting.Reference

open TagNesting.Text

variable {text more : List Char} {pos i : Nat} {m : Match} {ms ns : List Match}

/-! ### A `>` fixes what stands before it -/

/-- **Whether a tag begins at a place with a `>` after it** does not depend on what follows. -/
theorem beginsAt_append_iff (h : '>' ∈ text.drop i) (more : List Char) :
    BeginsAt (text ++ more) i ↔ BeginsAt text i := by
  have hi : i ≤ text.length := by
    by_contra hlt
    rw [List.drop_of_length_le (by omega)] at h
    exact absurd h List.not_mem_nil
  unfold BeginsAt
  rw [List.drop_append_of_le_length hi, begins_append_iff h]

namespace Match.Fits

theorem gt_mem (h : m.Fits text) (hi : i ≤ m.start) : '>' ∈ text.drop i := by
  obtain ⟨body, hbody, -⟩ := h.ends
  have hgt : '>' ∈ text.drop m.start := h.here.subset (by rw [hbody]; simp)
  rw [show m.start = i + (m.start - i) by omega, ← List.drop_drop] at hgt
  exact List.mem_of_mem_drop hgt

theorem stop_le (h : m.Fits text) : m.stop ≤ text.length := by
  obtain ⟨body, hbody, -⟩ := h.ends
  have hlen := h.here.length_le
  have hpos : 0 < m.text.length := by rw [hbody]; simp
  rw [List.length_drop] at hlen
  unfold stop
  omega

/-- A match stays one when the text goes on. -/
theorem append (h : m.Fits text) (more : List Char) : m.Fits (text ++ more) where
  here := h.here.trans ((List.prefix_append text more).drop m.start)
  ends := h.ends
  named := h.named

/-- A match that ends in the first part of a text is one of that part. -/
theorem of_append (h : m.Fits (text ++ more)) (hstop : m.stop ≤ text.length) : m.Fits text where
  here := by
    have hp : text.drop m.start <+: (text ++ more).drop m.start :=
      (List.prefix_append text more).drop m.start
    refine List.prefix_of_prefix_length_le h.here hp ?_
    unfold stop at hstop
    rw [List.length_drop]
    omega
  ends := h.ends
  named := h.named

end Match.Fits

/-! ### Scans that are resumed -/

/-- The place after the last match of a scan that has begun at a place. -/
def placeAfter (pos : Nat) : List Match → Nat
  | [] => pos
  | m :: ms => placeAfter m.stop ms

/-- The same match in a text with `k` more characters in front. -/
def Match.shift (k : Nat) (m : Match) : Match := { m with start := k + m.start }

theorem Match.stop_shift (k : Nat) (m : Match) : (m.shift k).stop = k + m.stop :=
  Nat.add_assoc k m.start m.text.length

namespace Scan

theorem le_start (h : Scan text pos ms) : ∀ m ∈ ms, pos ≤ m.start := by
  induction h with
  | stop _ => exact fun m hm => absurd hm List.not_mem_nil
  | @take pos m ms hpos _ _ _ _ ih =>
    intro n hn
    rcases List.mem_cons.mp hn with rfl | hn
    · exact hpos
    · have hstop := ih n hn
      unfold Match.stop at hstop
      omega

theorem placeAfter_le (h : Scan text pos ms) (hpos : pos ≤ text.length) :
    placeAfter pos ms ≤ text.length := by
  induction h with
  | stop _ => exact hpos
  | take _ _ _ hfits _ ih => exact ih hfits.stop_le

/-- No tag begins after the last match. -/
theorem not_beginsAt_of_placeAfter_le (h : Scan text pos ms) (hi : placeAfter pos ms ≤ i) :
    ¬ BeginsAt text i := by
  induction h with
  | stop hnone => exact hnone i hi
  | take _ _ _ _ _ ih => exact ih hi

/-- **A scan can be resumed.**  If the text goes on, the matches found so far stay the first ones,
and the scan goes on after the last of them. -/
theorem resume (h : Scan text pos ms) (h' : Scan (text ++ more) (placeAfter pos ms) ns) :
    Scan (text ++ more) pos (ms ++ ns) := by
  induction h with
  | stop _ => exact h'
  | take hpos hb hleast hfits _ ih =>
    refine .take hpos ?_ ?_ (hfits.append more) (ih h')
    · exact (beginsAt_append_iff (hfits.gt_mem le_rfl) more).mpr hb
    · intro k hk hlt
      rw [beginsAt_append_iff (hfits.gt_mem hlt.le)]
      exact hleast k hk hlt

/-- **The matches of a resumed scan end in the new text.** -/
theorem length_lt_stop (h : Scan text pos ms)
    (h' : Scan (text ++ more) (placeAfter pos ms) ns) : ∀ n ∈ ns, text.length < n.stop := by
  intro n hn
  by_contra hle
  obtain ⟨hb, hfits⟩ := h'.fits n hn
  have hfits' := hfits.of_append (not_lt.mp hle)
  rw [beginsAt_append_iff (hfits'.gt_mem le_rfl)] at hb
  exact h.not_beginsAt_of_placeAfter_le (h'.le_start n hn) hb

/-- A scan of the end of a text is a scan of the text from there on. -/
theorem shift {k : Nat} (h : Scan (text.drop k) pos ms) :
    Scan text (k + pos) (ms.map (Match.shift k)) := by
  induction h with
  | @stop pos hnone =>
    refine .stop fun i hi => ?_
    have hb := hnone (i - k) (by omega)
    rwa [beginsAt_drop, show k + (i - k) = i by omega] at hb
  | @take pos m ms hpos hb hleast hfits _ ih =>
    rw [List.map_cons]
    refine .take ?_ ?_ ?_ ⟨?_, hfits.ends, hfits.named⟩ ?_
    · exact Nat.add_le_add_left hpos k
    · exact (beginsAt_drop text k m.start).mp hb
    · intro i hi hlt
      have hlt' : i < k + m.start := hlt
      have hb' := hleast (i - k) (by omega) (by omega)
      rwa [beginsAt_drop, show k + (i - k) = i by omega] at hb'
    · have hhere := hfits.here
      rwa [List.drop_drop] at hhere
    · rw [Match.stop_shift]
      exact ih

/-- The matches of the first part of a text are those that end there. -/
theorem filter_stop (h : Scan text 0 ms)
    (h' : Scan (text ++ more) (placeAfter 0 ms) ns) :
    (ms ++ ns).filter (fun m => m.stop ≤ text.length) = ms := by
  have hkeep : ms.filter (fun m => m.stop ≤ text.length) = ms := by
    rw [List.filter_eq_self]
    intro m hm
    exact decide_eq_true (h.fits m hm).2.stop_le
  have hdrop : ns.filter (fun m => m.stop ≤ text.length) = [] := by
    rw [List.filter_eq_nil_iff]
    intro n hn
    have hlt := h.length_lt_stop h' n hn
    simpa using hlt
  rw [List.filter_append, hkeep, hdrop, List.append_nil]

end Scan

/-! ### The tags of a text -/

theorem exists_scan (text : List Char) : ∃ ms, ∀ ns, Scan text 0 ns ↔ ns = ms := by
  obtain ⟨ms, hms, -⟩ := scan_tags text ⟨0, 0, text⟩ rfl
  exact ⟨ms, fun ns => ⟨fun h => h.unique hms, fun h => h ▸ hms⟩⟩

/-- The tags of a text are those of its matches. -/
theorem tagsOfText_of_scan (number : Nat) {text : String} (h : Scan text.toList 0 ms) :
    tagsOfText number text = ms.map (Match.tag number) := by
  obtain ⟨ns, hns, htags⟩ := scan_tags text.toList (Cursor.ofText number text) rfl
  rw [h.unique hns]
  exact htags

theorem tagsOfLine_eq_tagsOfText (number : Nat) (line : String) :
    tagsOfLine number line =
      tagsOfText number (String.ofList (line.toList.take (markPlace line.toList))) := by
  unfold tagsOfLine tagsOfText Cursor.ofLine Cursor.ofText
  rw [beforeComment_eq_take, String.toList_ofList]

/-- The matches of a text that goes on, by those of its first part and those of the rest. -/
theorem exists_scan_append (text more : List Char) : ∃ ms ns, Scan text 0 ms ∧
    Scan (text.drop (placeAfter 0 ms) ++ more) 0 ns ∧
    Scan (text ++ more) (placeAfter 0 ms) (ns.map (Match.shift (placeAfter 0 ms))) := by
  obtain ⟨ms, hms⟩ := exists_scan text
  obtain ⟨ns, hns⟩ := exists_scan (text.drop (placeAfter 0 ms) ++ more)
  have hscan : Scan text 0 ms := (hms ms).mpr rfl
  have hrest : Scan (text.drop (placeAfter 0 ms) ++ more) 0 ns := (hns ns).mpr rfl
  refine ⟨ms, ns, hscan, hrest, ?_⟩
  rw [← List.drop_append_of_le_length (hscan.placeAfter_le (Nat.zero_le _))] at hrest
  exact hrest.shift

/-- **Taking tags can be split at any place.**  Let `rest` be what stands in a text after its last
match.  If the text goes on, its tags are followed by those of `rest` and the new text, and the
matches that these stand for end behind the text.  So the tags before the comment of a line are those
of the whole line whose `>` stands before the first `//`: its first ones, each as it is. -/
theorem tagsOfText_append :
    (∀ (number : Nat) (text more : String), ∃ ms ns : List Match,
      let rest := String.ofList (text.toList.drop (placeAfter 0 ms))
      (∀ xs, Scan text.toList 0 xs ↔ xs = ms) ∧
      (∀ xs, Scan (rest ++ more).toList 0 xs ↔ xs = ns) ∧
      tagsOfText number text = ms.map (Match.tag number) ∧
      tagsOfText number (rest ++ more) = ns.map (Match.tag number) ∧
      tagsOfText number (text ++ more) =
        tagsOfText number text ++ tagsOfText number (rest ++ more) ∧
      ∀ n ∈ ns, text.length < placeAfter 0 ms + n.stop) ∧
    ∀ (number : Nat) (line : String), ∃ ms : List Match,
      (∀ xs, Scan line.toList 0 xs ↔ xs = ms) ∧
      tagsOfText number line = ms.map (Match.tag number) ∧
      tagsOfLine number line =
        (ms.filter fun m => m.stop ≤ markPlace line.toList).map (Match.tag number) ∧
      tagsOfLine number line <+: tagsOfText number line := by
  constructor
  · intro number text more
    obtain ⟨ms, ns, hms, hns, hmore⟩ := exists_scan_append text.toList more.toList
    have hrest : (String.ofList (text.toList.drop (placeAfter 0 ms)) ++ more).toList =
        text.toList.drop (placeAfter 0 ms) ++ more.toList := by
      rw [String.toList_append, String.toList_ofList]
    rw [← hrest] at hns
    have hall := hms.resume hmore
    rw [← String.toList_append] at hall
    refine ⟨ms, ns, fun xs => ⟨fun h => h.unique hms, fun h => h ▸ hms⟩,
      fun xs => ⟨fun h => h.unique hns, fun h => h ▸ hns⟩, tagsOfText_of_scan number hms,
      tagsOfText_of_scan number hns, ?_, ?_⟩
    · rw [tagsOfText_of_scan number hall, tagsOfText_of_scan number hms,
        tagsOfText_of_scan number hns, List.map_append, List.map_map]
      rfl
    · intro n hn
      have hlt := hms.length_lt_stop hmore _ (List.mem_map_of_mem hn)
      rwa [Match.stop_shift, String.length_toList] at hlt
  · intro number line
    obtain ⟨ms, ns, hms, -, hmore⟩ := exists_scan_append (line.toList.take (markPlace line.toList))
      (line.toList.drop (markPlace line.toList))
    have hall := hms.resume hmore
    have hfilter := hms.filter_stop hmore
    rw [List.length_take, Nat.min_eq_left (markPlace_le_length _)] at hfilter
    rw [List.take_append_drop] at hall
    have hline : tagsOfLine number line = ms.map (Match.tag number) := by
      rw [tagsOfLine_eq_tagsOfText]
      exact tagsOfText_of_scan number (by rw [String.toList_ofList]; exact hms)
    refine ⟨_, fun xs => ⟨fun h => h.unique hall, fun h => h ▸ hall⟩,
      tagsOfText_of_scan number hall, ?_, ?_⟩
    · rw [hfilter, hline]
    · rw [hline, tagsOfText_of_scan number hall, List.map_append]
      exact List.prefix_append _ _

-- the comment begins inside the second tag, which would close itself
example : markPlace "<a><b u=\"//\"/></a>".toList = 9 ∧
    tagsOfLine 1 "<a><b u=\"//\"/></a>" = [⟨.opening, "a", 1⟩] ∧
    tagsOfText 1 "<a><b u=\"//\"/></a>" =
      [⟨.opening, "a", 1⟩, ⟨.selfClosing, "b", 1⟩, ⟨.closing, "a", 1⟩] := by
  decide +kernel

end TagNesting.Reference
