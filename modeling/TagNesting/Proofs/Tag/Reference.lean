import Mathlib.Data.List.Infix
import Mathlib.Data.List.TakeWhile
import TagNesting.Tag.Cursor

/-!
# The tags of a text, by the language of tags

The language of tags is `'<' '/'? W+ [^>]* '>'`, where `W` is the class of word characters
(`IsTag`).  The reference scan (`Scan`) goes from left to right: it takes the first place, at or
after the current one, at which some word of the language begins, reads the text from there to the
first `>`, takes for the name the longest run of word characters after the `<` and the optional `/`,
and goes on just after that `>`.

* `begins_cons_iff`: whether a word of the language begins at a `<` is decided by the name there and
  by whether a `>` follows, which is how `findTag?` decides it.
* `findTag?_eq_none`, `findTag?_eq_some`: so `findTag?` yields the first match, or shows that there
  is none.
* `Scan.unique`: the reference scan has one outcome.
* `tagsOfText_eq_scan`: the tags of a text are those of the reference scan.
-/

namespace TagNesting.Reference

open TagNesting.Text.WordClass

/-! ### The language and the scan -/

/-- **The language of tags**: `<`, an optional `/`, a non-empty run of word characters, anything but
`>`, and `>`. -/
def IsTag (w : List Char) : Prop :=
  ∃ slash name attributes : List Char, w = '<' :: (slash ++ (name ++ (attributes ++ ['>']))) ∧
    (slash = [] ∨ slash = ['/']) ∧ name ≠ [] ∧ (∀ c ∈ name, isWordChar c = true) ∧
    '>' ∉ attributes

/-- Some tag begins at the start of a text. -/
def Begins (text : List Char) : Prop := ∃ w, IsTag w ∧ w <+: text

/-- Some tag begins at a place of a text. -/
def BeginsAt (text : List Char) (i : Nat) : Prop := Begins (text.drop i)

/-- A match of the scan. -/
structure Match where
  /-- The place of its `<`. -/
  start : Nat
  /-- Its text, from `<` to `>`. -/
  text : List Char
  name : List Char

namespace Match

/-- The place just after its `>`. -/
def stop (m : Match) : Nat := m.start + m.text.length

/-- The tag that a match stands for on a line. -/
def tag (line : Nat) (m : Match) : Tag :=
  ⟨Kind.classify m.text (String.ofList m.name), String.ofList m.name, line⟩

/-- **A match as it stands in a text**: it runs to the first `>`, and its name is the longest run of
word characters after the `<` and the optional `/`. -/
structure Fits (text : List Char) (m : Match) : Prop where
  here : m.text <+: text.drop m.start
  ends : ∃ body, m.text = body ++ ['>'] ∧ '>' ∉ body
  named : ∃ slash rest, m.text = '<' :: (slash ++ (m.name ++ rest)) ∧
    (slash = [] ∨ slash = ['/']) ∧ m.name ≠ [] ∧ (∀ c ∈ m.name, isWordChar c = true) ∧
    ∀ c ∈ rest.head?, isWordChar c = false

end Match

/-- **The reference scan** of a text from a place on. -/
inductive Scan (text : List Char) : Nat → List Match → Prop
  /-- No start remains. -/
  | stop {pos : Nat} : (∀ i, pos ≤ i → ¬ BeginsAt text i) → Scan text pos []
  /-- The first start that remains is taken, and the scan goes on after the match. -/
  | take {pos : Nat} {m : Match} {ms : List Match} : pos ≤ m.start → BeginsAt text m.start →
      (∀ i, pos ≤ i → i < m.start → ¬ BeginsAt text i) → m.Fits text →
      Scan text m.stop ms → Scan text pos (m :: ms)

/-! ### Names -/

theorem not_word_slash : isWordChar '/' = false := by decide +kernel

theorem not_word_gt : isWordChar '>' = false := by decide +kernel

theorem dropSlash_cons_of_ne {c : Char} (hc : c ≠ '/') (cs : List Char) :
    dropSlash (c :: cs) = c :: cs := by
  unfold dropSlash
  split
  · next h => exact absurd (List.cons.inj h).1 hc
  · rfl

theorem exists_slash (cs : List Char) :
    ∃ slash, (slash = [] ∨ slash = ['/']) ∧ cs = slash ++ dropSlash cs := by
  unfold dropSlash
  split
  · exact ⟨['/'], Or.inr rfl, rfl⟩
  · exact ⟨[], Or.inl rfl, rfl⟩

/-- A run of word characters after the optional slash is the name, if it cannot be longer. -/
theorem nameAt_eq {slash name rest : List Char} (hs : slash = [] ∨ slash = ['/'])
    (hne : name ≠ []) (hw : ∀ c ∈ name, isWordChar c = true)
    (hr : ∀ c ∈ rest.head?, isWordChar c = false) : nameAt (slash ++ (name ++ rest)) = name := by
  have hdrop : dropSlash (slash ++ (name ++ rest)) = name ++ rest := by
    rcases hs with rfl | rfl
    · obtain ⟨c, name, rfl⟩ := List.exists_cons_of_ne_nil hne
      have hc : c ≠ '/' := by
        rintro rfl
        exact absurd (hw '/' (by simp)) (by rw [not_word_slash]; exact Bool.false_ne_true)
      rw [List.nil_append, List.cons_append, dropSlash_cons_of_ne hc]
    · rfl
  unfold nameAt
  rw [hdrop, List.takeWhile_append_of_pos hw]
  rcases rest with _ | ⟨c, rest⟩
  · simp
  · rw [List.takeWhile_cons_of_neg (by rw [hr c rfl]; exact Bool.false_ne_true), List.append_nil]

/-- What follows the longest run of word characters cannot prolong it. -/
theorem head?_dropWhile_word (cs : List Char) :
    ∀ c ∈ (cs.dropWhile isWordChar).head?, isWordChar c = false := by
  intro c hc
  have h := List.head?_dropWhile_not isWordChar cs
  rw [Option.mem_def.mp hc] at h
  simpa using h

/-- Where a name stands, the text is a slash or nothing, the name, and what cannot prolong it. -/
theorem exists_name (cs : List Char) :
    ∃ slash rest, cs = slash ++ (nameAt cs ++ rest) ∧ (slash = [] ∨ slash = ['/']) ∧
      (∀ c ∈ nameAt cs, isWordChar c = true) ∧ ∀ c ∈ rest.head?, isWordChar c = false := by
  obtain ⟨slash, hs, hcs⟩ := exists_slash cs
  refine ⟨slash, (dropSlash cs).dropWhile isWordChar, ?_, hs, ?_, head?_dropWhile_word _⟩
  · rw [nameAt, List.takeWhile_append_dropWhile]; exact hcs
  · exact fun c hc => List.mem_takeWhile_imp hc

/-- A `>` ends the name, whatever follows. -/
theorem nameAt_gt (cs rest : List Char) : nameAt (cs ++ '>' :: rest) = nameAt cs := by
  have hdrop : dropSlash (cs ++ '>' :: rest) = dropSlash cs ++ '>' :: rest := by
    rcases cs with _ | ⟨c, cs⟩
    · rfl
    · by_cases hc : c = '/'
      · rw [hc]; rfl
      · rw [dropSlash_cons_of_ne hc, List.cons_append, dropSlash_cons_of_ne hc]
  unfold nameAt
  rw [hdrop, List.takeWhile_append, List.takeWhile_cons_of_neg]
  · split
    · next h =>
      have hp : (dropSlash cs).takeWhile isWordChar <+: dropSlash cs := List.takeWhile_prefix _
      rw [List.append_nil, hp.eq_of_length h]
    · rfl
  · rw [not_word_gt]; exact Bool.false_ne_true

/-- Neither the optional slash nor the name holds a `>`. -/
theorem gt_notMem_front {slash name : List Char} (hs : slash = [] ∨ slash = ['/'])
    (hw : ∀ c ∈ name, isWordChar c = true) : '>' ∉ slash ++ name := by
  intro h
  rcases List.mem_append.mp h with h | h
  · rcases hs with rfl | rfl <;> simp at h
  · have := hw '>' h
    rw [not_word_gt] at this
    exact Bool.noConfusion this

/-- **Where a tag begins**: at a `<` that a name follows, with a `>` somewhere after it. -/
theorem begins_cons_iff (c : Char) (cs : List Char) :
    Begins (c :: cs) ↔ c = '<' ∧ nameAt cs ≠ [] ∧ '>' ∈ cs := by
  constructor
  · rintro ⟨w, ⟨slash, name, attributes, rfl, hs, hne, hw, -⟩, hp⟩
    rw [List.cons_prefix_cons] at hp
    obtain ⟨rfl, tail, rfl⟩ := hp
    refine ⟨rfl, ?_, by simp⟩
    -- the name may run on into the attributes, but it is not empty
    rw [List.append_assoc, List.append_assoc]
    generalize attributes ++ ['>'] ++ tail = after
    have hrun : ∀ c ∈ name ++ after.takeWhile isWordChar, isWordChar c = true := fun c hc =>
      (List.mem_append.mp hc).elim (hw c) List.mem_takeWhile_imp
    have hname := nameAt_eq hs (by simp [hne]) hrun (head?_dropWhile_word after)
    rw [List.append_assoc, List.takeWhile_append_dropWhile] at hname
    rw [hname]
    simp [hne]
  · rintro ⟨rfl, hne, hgt⟩
    obtain ⟨slash, rest, hcs, hs, hw, -⟩ := exists_name cs
    have hrest : '>' ∈ rest := by
      rw [hcs, ← List.append_assoc, List.mem_append] at hgt
      exact hgt.resolve_left (gt_notMem_front hs hw)
    obtain ⟨attributes, tail, rfl, hat⟩ := List.eq_append_cons_of_mem hrest
    refine ⟨_, ⟨slash, nameAt cs, attributes, rfl, hs, hne, hw, hat⟩, ?_⟩
    refine List.cons_prefix_cons.mpr ⟨rfl, tail, ?_⟩
    simpa using hcs.symm

theorem not_begins_nil : ¬ Begins [] := by
  rintro ⟨w, ⟨slash, name, attributes, rfl, -⟩, hp⟩
  exact List.cons_ne_nil _ _ (List.prefix_nil.mp hp)

/-- A tag begins only where a `>` follows. -/
theorem Begins.gt_mem {cs : List Char} (h : Begins cs) : '>' ∈ cs := by
  rcases cs with _ | ⟨c, cs⟩
  · exact absurd h not_begins_nil
  · exact List.mem_cons_of_mem c ((begins_cons_iff c cs).mp h).2.2

/-! ### The first tag of a text -/

theorem dropWhile_gt_eq_nil {cs : List Char} (h : cs.dropWhile (· ≠ '>') = []) : '>' ∉ cs := by
  intro hgt
  have := List.dropWhile_eq_nil_iff.mp h '>' hgt
  simp at this

/-- The text up to the first `>`, and the text after it. -/
theorem dropWhile_gt_eq_cons {cs rest : List Char} {c : Char}
    (h : cs.dropWhile (· ≠ '>') = c :: rest) :
    cs = cs.takeWhile (· ≠ '>') ++ '>' :: rest ∧ '>' ∉ cs.takeWhile (· ≠ '>') := by
  have hc := List.head?_dropWhile_not (· ≠ '>') cs
  rw [h] at hc
  obtain rfl : c = '>' := by simpa using hc
  refine ⟨?_, fun hgt => ?_⟩
  · rw [← h, List.takeWhile_append_dropWhile]
  · have := List.mem_takeWhile_imp hgt
    simp at this

/-- **`findTag?` misses no tag.** -/
theorem findTag?_eq_none {skipped : Nat} {cs : List Char} (h : findTag? skipped cs = none)
    (i : Nat) : ¬ BeginsAt cs i := by
  unfold BeginsAt
  fun_induction findTag? skipped cs generalizing i with
  | case1 => rw [List.drop_nil]; exact not_begins_nil
  | case2 skipped c cs hc hd =>
    intro hb
    have hgt : '>' ∈ c :: cs := List.mem_of_mem_drop hb.gt_mem
    rw [hc.1] at hgt
    exact dropWhile_gt_eq_nil hd (by simpa using hgt)
  | case3 => exact absurd h (by simp)
  | case4 skipped c cs hc ih =>
    rcases i with _ | i
    · rw [List.drop_zero, begins_cons_iff]
      rintro ⟨rfl, hne, -⟩
      exact hc ⟨rfl, hne⟩
    · exact ih h i

/-- What a found tag is in its text: the first match. -/
structure IsFirst (cs : List Char) (i : Nat) (f : Found) : Prop where
  begins : BeginsAt cs i
  least : ∀ j < i, ¬ BeginsAt cs j
  split : cs.drop i = f.text ++ f.rest
  body : '>' ∉ f.body
  named : ∃ slash rest, f.text = '<' :: (slash ++ (f.name ++ rest)) ∧
    (slash = [] ∨ slash = ['/']) ∧ f.name ≠ [] ∧ (∀ c ∈ f.name, isWordChar c = true) ∧
    ∀ c ∈ rest.head?, isWordChar c = false

/-- A name and what follows it in a text that a `>` ends. -/
theorem exists_name_before_gt (body : List Char) : ∃ slash rest,
    body ++ ['>'] = slash ++ (nameAt body ++ rest) ∧ (slash = [] ∨ slash = ['/']) ∧
      (∀ c ∈ nameAt body, isWordChar c = true) ∧ ∀ c ∈ rest.head?, isWordChar c = false := by
  obtain ⟨slash, after, he, hs, hw, hr⟩ := exists_name body
  refine ⟨slash, after ++ ['>'], ?_, hs, hw, ?_⟩
  · rw [← List.append_assoc, ← List.append_assoc, List.append_assoc slash, ← he]
  · rcases after with _ | ⟨c, after⟩
    · intro d hd
      rw [← Option.mem_some_iff.mp hd, not_word_gt]
    · exact hr

/-- **`findTag?` finds the first tag.** -/
theorem findTag?_eq_some {skipped : Nat} {cs : List Char} {f : Found}
    (h : findTag? skipped cs = some f) : ∃ i, f.skipped = skipped + i ∧ IsFirst cs i f := by
  fun_induction findTag? skipped cs with
  | case1 => exact absurd h (by simp)
  | case2 => exact absurd h (by simp)
  | case3 skipped c cs hc d rest hd =>
    obtain rfl := Option.some.inj h
    obtain ⟨rfl, hne⟩ := hc
    obtain ⟨hsplit, hbody⟩ := dropWhile_gt_eq_cons hd
    have hname : nameAt cs = nameAt (cs.takeWhile (· ≠ '>')) := by
      conv_lhs => rw [hsplit, nameAt_gt]
    obtain ⟨slash, more, he, hs, hw, hr⟩ := exists_name_before_gt (cs.takeWhile (· ≠ '>'))
    rw [← hname] at he hw
    refine ⟨0, rfl, ⟨?_, fun j hj => absurd hj (Nat.not_lt_zero j), ?_, hbody, ?_⟩⟩
    · refine (begins_cons_iff '<' cs).mpr ⟨rfl, hne, ?_⟩
      rw [hsplit]
      simp
    · unfold Found.text
      rw [List.drop_zero, List.append_assoc, List.cons_append, List.singleton_append, ← hsplit]
    · refine ⟨slash, more, ?_, hs, hne, hw, hr⟩
      unfold Found.text
      rw [List.cons_append, he]
  | case4 skipped c cs hc ih =>
    obtain ⟨i, hi, hf⟩ := ih h
    refine ⟨i + 1, by rw [hi]; omega, ⟨hf.begins, fun j hj => ?_, hf.split, hf.body, hf.named⟩⟩
    rcases j with _ | j
    · unfold BeginsAt
      rw [List.drop_zero, begins_cons_iff]
      rintro ⟨rfl, hne, -⟩
      exact hc ⟨rfl, hne⟩
    · exact hf.least j (by omega)

-- a `<` without a name is passed over, and a `<` inside a tag belongs to it
example : findTag? 0 "1 < 2 <a <b> <c".toList =
    some ⟨6, "a <b".toList, "a".toList, " <c".toList⟩ := by
  decide +kernel

/-! ### The scan has one outcome -/

/-- Of two texts that end at their first `>`, neither begins the other. -/
theorem eq_of_prefix_of_ends {body body' : List Char} (hb : '>' ∉ body')
    (h : body ++ ['>'] <+: body' ++ ['>']) : body ++ ['>'] = body' ++ ['>'] := by
  rcases List.prefix_concat_iff.mp h with h | h
  · exact h
  · exact absurd (h.subset (by simp)) hb

theorem Match.Fits.eq {text : List Char} {m n : Match} (hm : m.Fits text) (hn : n.Fits text)
    (hstart : m.start = n.start) : m = n := by
  have htext : m.text = n.text := by
    obtain ⟨body, he, hb⟩ := hm.ends
    obtain ⟨body', he', hb'⟩ := hn.ends
    have hhere := hm.here
    rw [hstart] at hhere
    rcases List.prefix_or_prefix_of_prefix hhere hn.here with h | h
    · rw [he, he'] at h ⊢
      exact eq_of_prefix_of_ends hb' h
    · rw [he, he'] at h ⊢
      exact (eq_of_prefix_of_ends hb h).symm
  obtain ⟨slash, rest, hname, hs, hne, hw, hr⟩ := hm.named
  obtain ⟨slash', rest', hname', hs', hne', hw', hr'⟩ := hn.named
  have hcs : slash ++ (m.name ++ rest) = slash' ++ (n.name ++ rest') := by
    rw [htext, hname', List.cons.injEq] at hname
    exact hname.2.symm
  have hmn : m.name = n.name := by
    rw [← nameAt_eq hs hne hw hr, hcs, nameAt_eq hs' hne' hw' hr']
  cases m
  cases n
  simp_all

/-- **The reference scan has one outcome.** -/
theorem Scan.unique {text : List Char} {pos : Nat} {ms ns : List Match} (hm : Scan text pos ms)
    (hn : Scan text pos ns) : ms = ns := by
  induction hm generalizing ns with
  | stop hnone =>
    cases hn with
    | stop _ => rfl
    | take hpos hb _ _ _ => exact absurd hb (hnone _ hpos)
  | @take pos m ms hpos hb hleast hfits _ ih =>
    cases hn with
    | stop hnone => exact absurd hb (hnone _ hpos)
    | @take _ n ns hpos' hb' hleast' hfits' hns =>
      have h1 : ¬ n.start < m.start := fun h => hleast _ hpos' h hb'
      have h2 : ¬ m.start < n.start := fun h => hleast' _ hpos h hb
      obtain rfl : m = n := hfits.eq hfits' (by omega)
      rw [ih hns]

/-! ### The tags of a text are those of the scan -/

theorem beginsAt_drop (text : List Char) (pos i : Nat) :
    BeginsAt (text.drop pos) i ↔ BeginsAt text (pos + i) := by
  unfold BeginsAt
  rw [List.drop_drop]

/-- The match that a found tag stands for, if it was found from a place on. -/
def matchOf (pos : Nat) (f : Found) : Match := ⟨pos + f.skipped, f.text, f.name⟩

theorem fits_matchOf {text : List Char} {pos i : Nat} {f : Found} (hi : f.skipped = i)
    (hf : IsFirst (text.drop pos) i f) : (matchOf pos f).Fits text where
  here := by
    have h := hf.split
    rw [List.drop_drop] at h
    unfold matchOf
    rw [hi, h]
    exact List.prefix_append _ _
  ends := ⟨'<' :: f.body, rfl, by simpa using hf.body⟩
  named := hf.named

/-- **The tags from a cursor on** are those of the reference scan from its place on. -/
theorem scan_tags (text : List Char) (c : Cursor) (h : c.rest = text.drop c.pos) :
    ∃ ms, Scan text c.pos ms ∧ c.tags = ms.map (Match.tag c.line) := by
  fun_induction Cursor.tags c with
  | case1 c hnext =>
    have hnone := findTag?_eq_none (Option.map_eq_none_iff.mp hnext)
    refine ⟨[], .stop fun i hi => ?_, rfl⟩
    have := hnone (i - c.pos)
    rwa [h, beginsAt_drop, show c.pos + (i - c.pos) = i by omega] at this
  | case2 c t d hnext _ ih =>
    obtain ⟨f, hfind, hd⟩ := Option.map_eq_some_iff.mp hnext
    obtain ⟨rfl, rfl⟩ := Prod.mk.inj hd
    obtain ⟨i, hi, hf⟩ := findTag?_eq_some hfind
    rw [Nat.zero_add] at hi
    rw [h] at hf
    have hrest : f.rest = text.drop (c.pos + f.skipped + f.text.length) := by
      have hs := hf.split
      rw [List.drop_drop, ← hi] at hs
      rw [← List.drop_drop, hs, List.drop_left]
    obtain ⟨ms, hms, htags⟩ := ih hrest
    refine ⟨matchOf c.pos f :: ms, .take ?_ ?_ ?_ (fits_matchOf hi hf) hms, ?_⟩
    · exact Nat.le_add_right _ _
    · have := hf.begins
      rwa [beginsAt_drop, ← hi] at this
    · intro k hk hlt hb
      have hlt' : k - c.pos < i := by
        have : (matchOf c.pos f).start = c.pos + f.skipped := rfl
        omega
      apply hf.least _ hlt'
      rwa [beginsAt_drop, show c.pos + (k - c.pos) = k by omega]
    · rw [htags]
      rfl

/-! ### What the scan says of every match -/

theorem Scan.fits {text : List Char} {pos : Nat} {ms : List Match} (h : Scan text pos ms) :
    ∀ m ∈ ms, BeginsAt text m.start ∧ m.Fits text := by
  induction h with
  | stop _ => exact fun m hm => absurd hm List.not_mem_nil
  | take _ hb _ hfits _ ih =>
    intro m hm
    rcases List.mem_cons.mp hm with rfl | hm
    · exact ⟨hb, hfits⟩
    · exact ih m hm

/-- Every place at which a tag begins lies in some match. -/
theorem Scan.covers {text : List Char} {pos : Nat} {ms : List Match} (h : Scan text pos ms) {i : Nat}
    (hi : pos ≤ i) (hb : BeginsAt text i) : ∃ m ∈ ms, m.start ≤ i ∧ i < m.stop := by
  induction h with
  | stop hnone => exact absurd hb (hnone i hi)
  | @take pos m ms _ _ hleast _ _ ih =>
    rcases Nat.lt_or_ge i m.start with hlt | hge
    · exact absurd hb (hleast i hi hlt)
    rcases Nat.lt_or_ge i m.stop with hlt | hge'
    · exact ⟨m, List.mem_cons_self, hge, hlt⟩
    · obtain ⟨n, hn, h⟩ := ih hge'
      exact ⟨n, List.mem_cons_of_mem m hn, h⟩

/-- A tag begins with a `<`, an optional `/` and a word character, and a `>` follows. -/
theorem BeginsAt.shape {text : List Char} {i : Nat} (h : BeginsAt text i) :
    (∃ c, isWordChar c = true ∧
      (['<', c] <+: text.drop i ∨ ['<', '/', c] <+: text.drop i)) ∧
    ∃ k, i < k ∧ text[k]? = some '>' := by
  obtain ⟨w, ⟨slash, name, attributes, rfl, hs, hne, hw, -⟩, tail, he⟩ := h
  obtain ⟨c, name, rfl⟩ := List.exists_cons_of_ne_nil hne
  refine ⟨⟨c, hw c (by simp), ?_⟩, ?_⟩
  · rcases hs with rfl | rfl
    · exact Or.inl ⟨_, he⟩
    · exact Or.inr ⟨_, he⟩
  · refine ⟨i + (slash ++ (c :: name ++ attributes)).length + 1, by omega, ?_⟩
    rw [Nat.add_assoc, ← List.getElem?_drop, ← he]
    simp

/-- **The tags of a text are those of the reference scan**, which has one outcome.  So every name is
a non-empty run of word characters, every place at which a tag begins lies in a match, and a match
begins only at a `<` that an optional `/` and a word character follow, with a `>` after them. -/
theorem tagsOfText_eq_scan (line : Nat) (text : String) :
    ∃ ms : List Match, (∀ ns, Scan text.toList 0 ns ↔ ns = ms) ∧
      tagsOfText line text = ms.map (Match.tag line) ∧
      (∀ t ∈ tagsOfText line text, t.name ≠ "" ∧ ∀ c ∈ t.name.toList, isWordChar c = true) ∧
      (∀ i, BeginsAt text.toList i → ∃ m ∈ ms, m.start ≤ i ∧ i < m.stop) ∧
      ∀ m ∈ ms, (∃ c, isWordChar c = true ∧
          (['<', c] <+: text.toList.drop m.start ∨ ['<', '/', c] <+: text.toList.drop m.start)) ∧
        ∃ k, m.start < k ∧ text.toList[k]? = some '>' := by
  obtain ⟨ms, hms, htags⟩ := scan_tags text.toList (Cursor.ofText line text) rfl
  have htags' : tagsOfText line text = ms.map (Match.tag line) := htags
  refine ⟨ms, fun ns => ⟨fun h => h.unique hms, fun h => h ▸ hms⟩, htags', ?_, ?_, ?_⟩
  · intro t ht
    rw [htags'] at ht
    obtain ⟨m, hm, rfl⟩ := List.mem_map.mp ht
    obtain ⟨-, -, -, -, hne, hw, -⟩ := (hms.fits m hm).2.named
    refine ⟨?_, ?_⟩
    · intro he
      apply hne
      simpa [Match.tag] using he
    · simpa [Match.tag] using hw
  · exact fun i hi => hms.covers (Nat.zero_le i) hi
  · exact fun m hm => (hms.fits m hm).1.shape

end TagNesting.Reference
