import TagNesting.Proofs.Tag.Resume
import TagNesting.Tag.Cursors

/-!
# Any interleaving of requests to the cursors of a line

Cursors on one line are asked for tags and copied in any order.  A history lists the requests that
were answered, the latest first (`Cursors.Leads`).  From it alone one reads off which cursor another
one descends from (`Cursors.origin`) and how many tags were handed over along that ancestry
(`Cursors.taken`); requests to other cursors do not enter.

What one request does to a cursor is to take some number of tags from the cursor it descends from
(`Cursors.moves_of_ask`); so does a whole history (`Cursors.Leads.moves`).  Hence every cursor yields
the tags of the line without the first `taken` ones, and a cursor that has come to the end stays
there, as do its copies (`Cursors.ask_of_leads`).
-/

namespace TagNesting

open TagNesting.Reference

/-! ### The place of a cursor -/

namespace Cursor

/-- The text before a cursor. -/
def passed (text : String) (c : Cursor) : String := String.ofList (text.toList.take c.pos)

/-- The place of a cursor, counted in bytes. -/
def offset (text : String) (c : Cursor) : String.Pos.Raw := (c.passed text).rawEndPos

/-- **A cursor stands in a text**: it is determined by its place. -/
structure StandsIn (number : Nat) (text : String) (c : Cursor) : Prop where
  pos_le : c.pos ≤ text.length
  eq : c = ⟨number, c.pos, text.toList.drop c.pos⟩

/-- **A cursor moves on in a text** to a place just after a `>`, between two characters. -/
structure Advances (text : String) (c d : Cursor) : Prop where
  pos_lt : c.pos < d.pos
  pos_le : d.pos ≤ text.length
  offset_lt : c.offset text < d.offset text
  offset_le : d.offset text ≤ text.rawEndPos
  boundary : (d.offset text).IsValid text
  after_gt : ∃ front, d.passed text = front ++ ">"

variable {number : Nat} {text : String} {c d e : Cursor} {t : Tag} {k l : Nat}

theorem standsIn_ofText (number : Nat) (text : String) : (ofText number text).StandsIn number text :=
  ⟨Nat.zero_le _, rfl⟩

theorem StandsIn.passed_append_rest (h : c.StandsIn number text) :
    c.passed text ++ String.ofList c.rest = text := by
  rw [h.eq]
  unfold passed
  dsimp only
  rw [← String.ofList_append, List.take_append_drop, String.ofList_toList]

theorem StandsIn.boundary (h : c.StandsIn number text) : (c.offset text).IsValid text :=
  String.Pos.Raw.isValid_iff_exists_append.mpr
    ⟨c.passed text, String.ofList c.rest, h.passed_append_rest.symm, rfl⟩

/-- What the next tag says about the text: it ends at the new place. -/
theorem StandsIn.split_next (h : c.StandsIn number text) (hnext : c.next? = some (t, d)) :
    ∃ more, text.toList = text.toList.take c.pos ++ (more ++ ['>']) ++ d.rest ∧
      d.pos = c.pos + (more ++ ['>']).length ∧ d.line = number := by
  obtain ⟨f, hfind, he⟩ := Option.map_eq_some_iff.mp hnext
  obtain ⟨-, rfl⟩ := Prod.mk.inj he
  obtain ⟨i, hi, hfirst⟩ := findTag?_eq_some hfind
  rw [Nat.zero_add] at hi
  have hrest : c.rest = text.toList.drop c.pos := congrArg Cursor.rest h.eq
  have hsplit : c.rest = c.rest.take i ++ (f.text ++ f.rest) := by
    rw [← hfirst.split, List.take_append_drop]
  have hlen : (c.rest.take i).length = i := by
    have hne : c.rest.drop i ≠ [] := by
      rw [hfirst.split]
      simp [Found.text]
    have hlt : i < c.rest.length := by
      by_contra hge
      exact hne (List.drop_of_length_le (not_lt.mp hge))
    rw [List.length_take]
    omega
  have hline : c.line = number := congrArg Cursor.line h.eq
  refine ⟨c.rest.take i ++ '<' :: f.body, ?_, ?_, hline⟩
  · conv_lhs => rw [← List.take_append_drop c.pos text.toList, ← hrest, hsplit]
    simp [Found.text]
  · simp only [List.length_append, List.length_cons, Found.text, hlen, hi]
    omega

theorem StandsIn.next (h : c.StandsIn number text) (hnext : c.next? = some (t, d)) :
    d.StandsIn number text ∧ ∃ more, d.passed text = c.passed text ++ more ++ ">" := by
  obtain ⟨more, htext, hpos, hline⟩ := h.split_next hnext
  have htake : (text.toList.take c.pos).length = c.pos := by
    have hle := h.pos_le
    rw [← String.length_toList] at hle
    rw [List.length_take]
    omega
  have hfront : (text.toList.take c.pos ++ (more ++ ['>'])).length = d.pos := by
    rw [List.length_append, htake, hpos]
  have hdrop : text.toList.drop d.pos = d.rest := by
    rw [htext, ← hfront, List.drop_left]
  have hpassed : text.toList.take d.pos = text.toList.take c.pos ++ (more ++ ['>']) := by
    conv_lhs => rw [htext, ← hfront, List.take_left]
  refine ⟨⟨?_, ?_⟩, String.ofList more, ?_⟩
  · have hlen := congrArg List.length htext
    rw [List.length_append, hfront, String.length_toList] at hlen
    omega
  · rw [hdrop, ← hline]
  · unfold passed
    rw [hpassed, String.ofList_append, String.ofList_append, String.append_assoc]

/-- **The next tag moves a cursor on.** -/
theorem StandsIn.advances (h : c.StandsIn number text) (hnext : c.next? = some (t, d)) :
    Advances text c d := by
  obtain ⟨hd, more, hpassed⟩ := h.next hnext
  obtain ⟨front, -, hpos, -⟩ := h.split_next hnext
  refine ⟨?_, hd.pos_le, ?_, hd.boundary.le_rawEndPos, hd.boundary, c.passed text ++ more, hpassed⟩
  · rw [hpos, List.length_append, List.length_singleton]
    omega
  · have hgt : (">" : String).utf8ByteSize = 1 := by decide
    have hsize := congrArg String.utf8ByteSize hpassed
    rw [String.utf8ByteSize_append, String.utf8ByteSize_append, hgt] at hsize
    rw [String.Pos.Raw.lt_iff]
    have hc : (c.offset text).byteIdx = (c.passed text).utf8ByteSize := rfl
    have hd : (d.offset text).byteIdx = (d.passed text).utf8ByteSize := rfl
    omega

/-! ### Taking several tags -/

theorem tags_eq_nil_iff : c.tags = [] ↔ c.next? = none := by
  rcases hnext : c.next? with _ | ⟨t, d⟩
  · simp [tags_of_next?_eq_none hnext]
  · simp [tags_of_next?_eq_some hnext]

/-- **The cursor `d` is reached from `c` by taking `k` tags.** -/
inductive Moves : Cursor → Nat → Cursor → Prop
  | refl (c : Cursor) : Moves c 0 c
  | next {c d e : Cursor} {t : Tag} {k : Nat} : c.next? = some (t, d) → Moves d k e →
      Moves c (k + 1) e

namespace Moves

theorem trans (h : Moves c k d) (h' : Moves d l e) : Moves c (k + l) e := by
  induction h with
  | refl c => rwa [Nat.zero_add]
  | next hnext _ ih =>
    rw [Nat.add_right_comm]
    exact .next hnext (ih h')

theorem unique (h : Moves c k d) (h' : Moves c k e) : d = e := by
  induction h with
  | refl c => cases h'; rfl
  | next hnext _ ih =>
    cases h' with
    | next hnext' hmoves =>
      rw [hnext] at hnext'
      obtain ⟨-, rfl⟩ := Prod.mk.inj (Option.some.inj hnext')
      exact ih hmoves

/-- The tags that remain. -/
theorem tags_eq (h : Moves c k d) : d.tags = c.tags.drop k ∧ k ≤ c.tags.length := by
  induction h with
  | refl c => exact ⟨rfl, Nat.zero_le _⟩
  | next hnext _ ih =>
    obtain ⟨htags, hle⟩ := ih
    rw [tags_of_next?_eq_some hnext, List.drop_succ_cons, List.length_cons]
    exact ⟨htags, by omega⟩

theorem standsIn (h : Moves c k d) (hc : c.StandsIn number text) : d.StandsIn number text := by
  induction h with
  | refl c => exact hc
  | next hnext _ ih => exact ih (hc.next hnext).1

end Moves

theorem moves_last (c : Cursor) : Moves c c.tags.length c.last := by
  fun_induction Cursor.tags c with
  | case1 c hnext =>
    rw [last_of_next?_eq_none hnext]
    exact .refl c
  | case2 c t d hnext _ ih =>
    rw [last_of_next?_eq_some hnext, List.length_cons]
    exact .next hnext ih

end Cursor

namespace Cursors

open TagNesting.Log TagNesting.Cursor

/-! ### Histories -/

/-- How many tags a reply hands over; those of a count are taken from a copy. -/
def Reply.handed : Reply → Nat
  | .tag next => next.toList.length
  | .tags remaining => remaining.length
  | .copied _ | .counted _ => 0

/-- A request to a cursor, and its answer. -/
structure Exchange where
  request : Request
  number : Nat
  reply : Reply
  deriving DecidableEq, Repr

/-- The cursor that a cursor descends from, before the exchanges of a history. -/
def origin : List Exchange → Nat → Nat
  | [], i => i
  | e :: earlier, i => if e.reply = .copied i then origin earlier e.number else origin earlier i

/-- **How many tags were handed over along the ancestry of a cursor.**  A copy takes over the count
of the cursor it was made from. -/
def taken : List Exchange → Nat → Nat
  | [], _ => 0
  | e :: earlier, i =>
    if e.reply = .copied i then taken earlier e.number
    else if e.number = i then taken earlier i + e.reply.handed
    else taken earlier i

/-- **Any interleaving of requests**: a history leads from one family to another. -/
inductive Leads (cs : Cursors) : List Exchange → Cursors → Prop
  | start : Leads cs [] cs
  | ask {h : List Exchange} {ds es : Cursors} {r : Request} {i : Nat} {reply : Reply}
      {log : List Event} : Leads cs h ds → ds.ask r i = some (es, reply, log) →
      Leads cs (⟨r, i, reply⟩ :: h) es

variable {cs ds : Cursors} {c d : Cursor} {r : Request} {i j : Nat} {reply : Reply}
  {log : List Event} {h : List Exchange} {t : Tag}

theorem origin_cons (e : Exchange) (h : List Exchange) (i : Nat) :
    origin (e :: h) i = origin h (origin [e] i) := by
  simp only [origin]
  split <;> rfl

theorem taken_cons (e : Exchange) (h : List Exchange) (i : Nat) :
    taken (e :: h) i = taken h (origin [e] i) + taken [e] i := by
  simp only [taken, origin]
  split
  · rfl
  · split
    · rw [Nat.zero_add]
    · rfl

/-! ### One request -/

theorem ask_next_of_none (hc : cs.members[i]? = some c) (hnext : c.next? = none) :
    cs.ask .next i = some (cs, .tag none, []) := by
  simp [ask, hc, hnext]

theorem ask_next_of_some (hc : cs.members[i]? = some c) (hnext : c.next? = some (t, d)) :
    cs.ask .next i = some (⟨cs.members.set! i d⟩, .tag (some t), [.tagTaken t]) := by
  simp [ask, hc, hnext]

theorem ask_copy (hc : cs.members[i]? = some c) :
    cs.ask .copy i = some (⟨cs.members.push c⟩, .copied cs.members.size, []) := by
  simp [ask, hc]

theorem ask_rest (hc : cs.members[i]? = some c) : cs.ask .rest i =
    some (⟨cs.members.set! i c.last⟩, .tags c.tags, c.tags.map .tagTaken) := by
  simp [ask, hc]

theorem ask_count (hc : cs.members[i]? = some c) :
    cs.ask .count i = some (cs, .counted c.tags.length, c.tags.map .tagTaken) := by
  simp [ask, hc]

/-- Only cursors that exist are asked. -/
theorem exists_of_ask (hask : cs.ask r i = some (ds, reply, log)) :
    ∃ c, cs.members[i]? = some c := by
  obtain ⟨c, hc, -⟩ := Option.map_eq_some_iff.mp hask
  exact ⟨c, hc⟩

/-- A cursor that is put in the place of another. -/
theorem getElem?_set (hc : cs.members[i]? = some c) (d : Cursor) (j : Nat) :
    (cs.members.set! i d)[j]? = if i = j then some d else cs.members[j]? := by
  have hi : i < cs.members.size := (Array.getElem?_eq_some_iff.mp hc).1
  rw [Array.set!_eq_setIfInBounds, Array.getElem?_setIfInBounds, if_pos hi]

/-- A reply that makes no copy, after which cursor `i` has taken tags and the others stay. -/
theorem moves_of_set {k : Nat} (hc : cs.members[i]? = some c) (hmoves : Moves c k d)
    (hreply : ∀ m, reply ≠ .copied m) (hk : reply.handed = k) {d' : Cursor}
    (hd : (if i = j then some d else cs.members[j]?) = some d') :
    ∃ c', cs.members[origin [⟨r, i, reply⟩] j]? = some c' ∧
      Moves c' (taken [⟨r, i, reply⟩] j) d' := by
  have horigin : origin [⟨r, i, reply⟩] j = j := if_neg (hreply j)
  have htaken : taken [⟨r, i, reply⟩] j = if i = j then k else 0 := by
    simp only [taken, if_neg (hreply j), hk, Nat.zero_add]
  rw [horigin, htaken]
  by_cases hij : i = j
  · subst hij
    rw [if_pos rfl] at hd ⊢
    obtain rfl := Option.some.inj hd
    exact ⟨c, hc, hmoves⟩
  · rw [if_neg hij] at hd ⊢
    exact ⟨d', hd, .refl d'⟩

/-- **What a request does to the cursors**: each has taken as many tags from the one it descends
from as the reply says. -/
theorem moves_of_ask (hask : cs.ask r i = some (ds, reply, log)) (hd : ds.members[j]? = some d) :
    ∃ c, cs.members[origin [⟨r, i, reply⟩] j]? = some c ∧
      Moves c (taken [⟨r, i, reply⟩] j) d := by
  obtain ⟨c, hc⟩ := exists_of_ask hask
  have hstay : cs.members[j]? = some d →
      (if i = j then some c else cs.members[j]?) = some d := by
    intro hj
    split
    · next hij => rw [← hij, hc] at hj; exact hj
    · exact hj
  cases r with
  | next =>
    rcases hnext : c.next? with _ | ⟨t, c'⟩
    · rw [ask_next_of_none hc hnext] at hask
      cases hask
      exact moves_of_set hc (.refl c) (by simp) rfl (hstay hd)
    · rw [ask_next_of_some hc hnext] at hask
      cases hask
      rw [getElem?_set hc] at hd
      exact moves_of_set hc (.next hnext (.refl c')) (by simp) rfl hd
  | copy =>
    rw [ask_copy hc] at hask
    cases hask
    rw [Array.getElem?_push] at hd
    by_cases hj : j = cs.members.size
    · subst hj
      rw [if_pos rfl] at hd
      obtain rfl := Option.some.inj hd
      refine ⟨c, ?_, ?_⟩
      · simpa only [origin, if_true] using hc
      · simpa only [taken, if_true] using Moves.refl c
    · rw [if_neg hj] at hd
      have hne : Reply.copied cs.members.size ≠ .copied j := fun he => hj (Reply.copied.inj he).symm
      refine ⟨d, ?_, ?_⟩
      · simpa only [origin, if_neg hne] using hd
      · simpa only [taken, if_neg hne, Reply.handed, Nat.add_zero, ite_self] using Moves.refl d
  | rest =>
    rw [ask_rest hc] at hask
    cases hask
    rw [getElem?_set hc] at hd
    exact moves_of_set hc c.moves_last (by simp) rfl hd
  | count =>
    rw [ask_count hc] at hask
    cases hask
    exact moves_of_set hc (.refl c) (by simp) rfl (hstay hd)

/-! ### All requests -/

/-- **What a history does to the cursors.** -/
theorem Leads.moves (hrun : Leads cs h ds) (hd : ds.members[j]? = some d) :
    ∃ c, cs.members[origin h j]? = some c ∧ Moves c (taken h j) d := by
  induction hrun generalizing j d with
  | start => exact ⟨d, hd, .refl d⟩
  | @ask h ds es r i reply log _ hask ih =>
    obtain ⟨c, hc, hlast⟩ := moves_of_ask hask hd
    obtain ⟨b, hb, hearlier⟩ := ih hc
    rw [origin_cons, taken_cons]
    exact ⟨b, hb, hearlier.trans hlast⟩

/-- In a family that descends from one cursor, the count of a cursor is all there is to it. -/
theorem Leads.moves_single (hrun : Leads (single c) h cs) (hd : cs.members[i]? = some d) :
    Moves c (taken h i) d := by
  obtain ⟨b, hb, hmoves⟩ := hrun.moves hd
  obtain rfl : c = b := by
    have hmem := Array.mem_of_getElem? hb
    simpa [single, eq_comm] using hmem
  exact hmoves

/-- A cursor that has come to the end stays there, and so do its copies. -/
theorem Leads.next?_eq_none (hrun : Leads cs h ds) (hc : cs.members[origin h j]? = some c)
    (hnext : c.next? = none) (hd : ds.members[j]? = some d) : d.next? = none := by
  obtain ⟨b, hb, hmoves⟩ := hrun.moves hd
  obtain rfl : c = b := Option.some.inj (hc.symm.trans hb)
  have htags := hmoves.tags_eq.1
  rw [tags_eq_nil_iff.mpr hnext, List.drop_nil] at htags
  exact tags_eq_nil_iff.mp htags

/-- The next tag is the first of those that remain. -/
theorem next?_of_tags {k : Nat} {full : List Tag} (htags : c.tags = full.drop k) :
    (full[k]? = none → c.next? = none) ∧
    ∀ t, full[k]? = some t → ∃ d, c.next? = some (t, d) := by
  have hhead : full[k]? = c.tags.head? := by rw [htags, List.head?_drop]
  rw [hhead]
  rcases hnext : c.next? with _ | ⟨t, d⟩
  · rw [tags_of_next?_eq_none hnext]
    exact ⟨fun _ => rfl, nofun⟩
  · rw [tags_of_next?_eq_some hnext]
    refine ⟨nofun, fun t' ht => ⟨d, ?_⟩⟩
    rw [Option.some.inj ht]

/-- **Whatever was asked before**, of any of the cursors that descend from the start of a text, a
cursor yields the tags of the text without those handed over along its ancestry.  It is determined by
its place and by that count alone.  A tag that it yields moves it on to a place just after a `>` and
no other cursor; if none is left, nothing changes; a copy is one more cursor at the same place.  A
cursor that was answered with no tag, and any copy of it, is answered so ever after. -/
theorem ask_of_leads {number : Nat} {text : String}
    (hrun : Leads (single (Cursor.ofText number text)) h cs) :
    let full := tagsOfText number text
    (∀ i c, cs.members[i]? = some c →
      c.StandsIn number text ∧ taken h i ≤ full.length ∧ c.tags = full.drop (taken h i) ∧
      (full[taken h i]? = none → cs.ask .next i = some (cs, .tag none, [])) ∧
      (∀ t, full[taken h i]? = some t → ∃ d, Advances text c d ∧
        cs.ask .next i = some (⟨cs.members.set! i d⟩, .tag (some t), [.tagTaken t])) ∧
      cs.ask .copy i = some (⟨cs.members.push c⟩, .copied cs.members.size, []) ∧
      ∃ ds log, cs.ask .rest i = some (ds, .tags (full.drop (taken h i)), log)) ∧
    (∀ h' cs' i i' c c', Leads (single (Cursor.ofText number text)) h' cs' →
      cs.members[i]? = some c → cs'.members[i']? = some c' → taken h i = taken h' i' → c = c') ∧
    ∀ i es log, cs.ask .next i = some (es, .tag none, log) →
      ∀ later ds j fs reply log', Leads es later ds → origin later j = i →
        ds.ask .next j = some (fs, reply, log') → reply = .tag none ∧ fs = ds := by
  intro full
  refine ⟨fun i c hc => ?_, fun h' cs' i i' c c' hrun' hc hc' hcount => ?_,
    fun i es log hask later ds j fs reply log' hlater horigin hask' => ?_⟩
  · have hmoves := hrun.moves_single hc
    have hstands := hmoves.standsIn (standsIn_ofText number text)
    obtain ⟨htags, hle⟩ := hmoves.tags_eq
    obtain ⟨hnone, hsome⟩ := next?_of_tags htags
    have hrest := ask_rest hc
    rw [htags] at hrest
    refine ⟨hstands, hle, htags, fun hn => ask_next_of_none hc (hnone hn), fun t ht => ?_,
      ask_copy hc, _, _, hrest⟩
    obtain ⟨d, hnext⟩ := hsome t ht
    exact ⟨d, hstands.advances hnext, ask_next_of_some hc hnext⟩
  · have hmoves := hrun.moves_single hc
    rw [hcount] at hmoves
    exact hmoves.unique (hrun'.moves_single hc')
  · -- only a cursor at its end is answered with no tag, and then the family stays as it is
    obtain ⟨c, hc⟩ := exists_of_ask hask
    rcases hnext : c.next? with _ | ⟨t, d⟩
    · rw [ask_next_of_none hc hnext] at hask
      cases hask
      obtain ⟨d, hd⟩ := exists_of_ask hask'
      rw [ask_next_of_none hd (hlater.next?_eq_none (by rw [horigin]; exact hc) hnext hd)] at hask'
      cases hask'
      exact ⟨rfl, rfl⟩
    · rw [ask_next_of_some hc hnext] at hask
      cases hask

/-- A cursor is copied after its first tag, and the copy comes to its end inside the line.  The first
cursor goes on from where it was, and a copy of the copy finds nothing. -/
theorem ask_of_leads_copied :
    let text := "<é><b> <u"
    let c : Cursor := ⟨7, 3, "<b> <u".toList⟩
    let d : Cursor := ⟨7, 6, " <u".toList⟩
    let b : Tag := ⟨.opening, "b", 7⟩
    let h : List Exchange := [⟨.next, 1, .tag (some b)⟩, ⟨.copy, 0, .copied 1⟩,
      ⟨.next, 0, .tag (some ⟨.opening, "é", 7⟩)⟩]
    Leads (single (Cursor.ofText 7 text)) h ⟨#[c, d]⟩ ∧ taken h 0 = 1 ∧ taken h 1 = 2 ∧
    c.tags = [b] ∧ c.offset text = ⟨4⟩ ∧
    (∃ e, Advances text c e ∧ Cursors.ask ⟨#[c, d]⟩ .next 0 =
      some (⟨#[c, d].set! 0 e⟩, .tag (some b), [.tagTaken b])) ∧
    Cursors.ask ⟨#[c, d]⟩ .next 1 = some (⟨#[c, d]⟩, .tag none, []) ∧
    ∀ fs reply log, Cursors.ask ⟨#[c, d, d]⟩ .next 2 = some (fs, reply, log) →
      reply = .tag none ∧ fs = ⟨#[c, d, d]⟩ := by
  intro text c d b h
  have hrun : Leads (single (Cursor.ofText 7 text)) h ⟨#[c, d]⟩ := by
    have hfirst : (single (Cursor.ofText 7 text)).ask .next 0 =
        some (⟨#[c]⟩, .tag (some ⟨.opening, "é", 7⟩), [.tagTaken ⟨.opening, "é", 7⟩]) := by
      decide +kernel
    have hcopy : Cursors.ask ⟨#[c]⟩ .copy 0 = some (⟨#[c, c]⟩, .copied 1, []) := by decide +kernel
    have hsecond : Cursors.ask ⟨#[c, c]⟩ .next 1 =
        some (⟨#[c, d]⟩, .tag (some b), [.tagTaken b]) := by decide +kernel
    exact .ask (.ask (.ask .start hfirst) hcopy) hsecond
  have hfull : tagsOfText 7 text = [⟨.opening, "é", 7⟩, b] := by decide +kernel
  obtain ⟨heach, -, hend⟩ := ask_of_leads hrun
  obtain ⟨-, -, htags, -, hsome, -, -⟩ := heach 0 c rfl
  obtain ⟨-, -, -, hnone, -, -, -⟩ := heach 1 d rfl
  have hstop := hnone (by rw [hfull]; rfl)
  have hcopy : Cursors.ask ⟨#[c, d]⟩ .copy 1 = some (⟨#[c, d, d]⟩, .copied 2, []) := by
    decide +kernel
  have hlater : Leads ⟨#[c, d]⟩ [⟨.copy, 1, .copied 2⟩] ⟨#[c, d, d]⟩ := .ask .start hcopy
  rw [hfull] at htags
  exact ⟨hrun, rfl, rfl, htags, by decide +kernel, hsome b (by rw [hfull]; rfl), hstop,
    fun fs reply log hask => hend 1 _ _ hstop _ _ 2 fs reply log hlater rfl hask⟩

end Cursors

end TagNesting
