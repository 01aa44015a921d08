import Mathlib.Data.List.Infix
import Mathlib.Data.List.Nodup
import TagNesting.Proofs.Nesting.Levels

/-!
# Which closing tag belongs to which opening tag

The places of a list of tags are paired by counting alone, without a stack: the closing tag at `j`
belongs to the opening tag at `i` if the tags strictly between them are `Closed`, that is, open as
many levels as they close and at no point have closed more than they have opened.

* `Closed.not_open_rest`: an opening tag in a closed word has no closed rest after it there.
* `Paired.left_unique`, `Paired.right_unique`: a tag has one partner at most.
* `paired_last_iff`: if a list falls into levels with closed words, the partner of a closing tag put
  after it is the innermost open tag.
* `pairs_concat`, `unpaired_concat`: how the pairs and the unpaired openings of a list change with a
  tag put after it.
-/

namespace TagNesting

/-! ### Counting openings and closings -/

/-- How many tags open a level. -/
def openings (ts : List Tag) : Nat := ts.countP fun t => t.kind = .opening

/-- How many tags close a level. -/
def closings (ts : List Tag) : Nat := ts.countP fun t => t.kind = .closing

@[simp] theorem openings_nil : openings [] = 0 := rfl

@[simp] theorem closings_nil : closings [] = 0 := rfl

theorem openings_cons (t : Tag) (ts : List Tag) :
    openings (t :: ts) = openings ts + if t.kind = .opening then 1 else 0 := by
  simp [openings, List.countP_cons]

theorem closings_cons (t : Tag) (ts : List Tag) :
    closings (t :: ts) = closings ts + if t.kind = .closing then 1 else 0 := by
  simp [closings, List.countP_cons]

@[simp] theorem openings_append (ts us : List Tag) :
    openings (ts ++ us) = openings ts + openings us := List.countP_append

@[simp] theorem closings_append (ts us : List Tag) :
    closings (ts ++ us) = closings ts + closings us := List.countP_append

/-! ### Closed words -/

/-- **A closed word** has as many closings as openings, and no beginning of it has more. -/
def Closed (w : List Tag) : Prop :=
  openings w = closings w ∧ ∀ u ∈ w.inits, closings u ≤ openings u

instance (w : List Tag) : Decidable (Closed w) := inferInstanceAs (Decidable (_ ∧ _))

namespace Closed

variable {u v w : List Tag} {a b t : Tag}

theorem le_of_initial (h : Closed w) (hu : u <+: w) : closings u ≤ openings u :=
  h.2 u (List.mem_inits u w |>.mpr hu)

theorem concatenative : Concatenative Closed where
  nil := ⟨rfl, fun u hu => by rw [List.prefix_nil.mp ((List.mem_inits u []).mp hu)]; exact le_rfl⟩
  append := by
    rintro u v hu hv
    refine ⟨by rw [openings_append, closings_append, hu.1, hv.1], fun x hx => ?_⟩
    rw [List.mem_inits] at hx
    rcases List.prefix_or_prefix_of_prefix hx (List.prefix_append u v) with h | ⟨y, rfl⟩
    · exact hu.le_of_initial h
    · have h1 := hu.1
      have h2 := hv.le_of_initial ((List.prefix_append_right_inj u).mp hx)
      rw [openings_append, closings_append]
      omega

theorem singleton (ht : t.kind = .selfClosing) : Closed [t] := by
  refine ⟨by simp [openings_cons, closings_cons, ht], fun u hu => ?_⟩
  rcases List.prefix_concat_iff.mp ((List.mem_inits u ([] ++ [t])).mp hu) with rfl | hu
  · simp [openings_cons, closings_cons, ht]
  · rw [List.prefix_nil.mp hu]; exact le_rfl

/-- A closed word between an opening and a closing tag. -/
theorem enclose (ha : a.kind = .opening) (hb : b.kind = .closing) (h : Closed w) :
    Closed (a :: (w ++ [b])) := by
  have h1 := h.1
  refine ⟨by simp [openings_cons, closings_cons, ha, hb, h1], fun u hu => ?_⟩
  rcases List.prefix_cons_iff.mp ((List.mem_inits _ _).mp hu) with rfl | ⟨v, rfl, hv⟩
  · exact le_rfl
  rw [openings_cons, closings_cons, ha]
  rcases List.prefix_concat_iff.mp hv with rfl | hv
  · simp [openings_cons, closings_cons, hb, h1]
  · have h2 := h.le_of_initial hv
    simp only [if_true, reduceCtorEq, if_false]
    omega

/-- An opening tag that a closed rest follows is closed by none of the tags of that rest. -/
theorem not_open_rest (h : Closed (u ++ a :: w)) (ha : a.kind = .opening) : ¬ Closed w := by
  intro hw
  have h1 := h.1
  have h2 := hw.1
  have h3 := h.le_of_initial (List.prefix_append u (a :: w))
  rw [openings_append, closings_append, openings_cons, closings_cons, ha] at h1
  simp only [if_true, reduceCtorEq, if_false] at h1
  omega

end Closed

/-- In levels of closed words there are as many openings more than closings as there are levels. -/
theorem Levels.openings_eq {s : List (Nat × Tag)} {ts : List Tag} (h : Levels Closed s ts) :
    openings ts = closings ts + s.length := by
  induction h with
  | ground hw => exact hw.1
  | opened _ ha hw ih =>
    have h1 := hw.1
    rw [openings_append, closings_append, openings_cons, closings_cons, ha, List.length_cons]
    simp only [if_true, reduceCtorEq, if_false]
    omega

theorem Levels.getElem?_of_mem {W : List Tag → Prop} {s : List (Nat × Tag)} {ts : List Tag}
    (h : Levels W s ts) : ∀ x ∈ s, ts[x.1]? = some x.2 := by
  induction h with
  | ground _ => exact fun x hx => absurd hx List.not_mem_nil
  | @opened s ts w a _ _ _ ih =>
    intro x hx
    rcases List.mem_cons.mp hx with rfl | hx
    · simp
    · have hx' := ih x hx
      rw [List.getElem?_append_left (List.getElem?_eq_some_iff.mp hx').1, hx']

/-! ### Pairs of places -/

/-- The tag at a place opens a level. -/
def OpensAt (ts : List Tag) (i : Nat) : Prop := ts[i]?.map Tag.kind = some .opening

/-- The tag at a place closes a level. -/
def ClosesAt (ts : List Tag) (j : Nat) : Prop := ts[j]?.map Tag.kind = some .closing

/-- **The closing tag at `j` belongs to the opening tag at `i`**: the word strictly between them is
closed. -/
def Paired (ts : List Tag) (i j : Nat) : Prop :=
  i < j ∧ OpensAt ts i ∧ ClosesAt ts j ∧ Closed ((ts.take j).drop (i + 1))

instance (ts : List Tag) (i : Nat) : Decidable (OpensAt ts i) :=
  inferInstanceAs (Decidable (_ = _))

instance (ts : List Tag) (i : Nat) : Decidable (ClosesAt ts i) :=
  inferInstanceAs (Decidable (_ = _))

instance (ts : List Tag) (i j : Nat) : Decidable (Paired ts i j) :=
  inferInstanceAs (Decidable (_ ∧ _ ∧ _ ∧ _))

/-- **All pairs**, in the order of the closing tags. -/
def pairs (ts : List Tag) : List (Nat × Nat) :=
  (List.range ts.length).flatMap fun j =>
    ((List.range j).filter fun i => Paired ts i j).map fun i => (i, j)

/-- **The places of the openings without a partner**, in order. -/
def unpaired (ts : List Tag) : List Nat :=
  (List.range ts.length).filter fun i => OpensAt ts i ∧ ∀ j < ts.length, ¬ Paired ts i j

theorem OpensAt.split {ts : List Tag} {i : Nat} (h : OpensAt ts i) :
    ∃ a, a.kind = .opening ∧ ts = ts.take i ++ a :: ts.drop (i + 1) := by
  obtain ⟨a, ha, hk⟩ := Option.map_eq_some_iff.mp h
  obtain ⟨hi, rfl⟩ := List.getElem?_eq_some_iff.mp ha
  exact ⟨ts[i], hk, by rw [← List.drop_eq_getElem_cons hi, List.take_append_drop]⟩

/-! ### Partners are unique -/

/-- Of two opening tags with closed rests neither stands before the other. -/
theorem not_lt_of_closed_rest {ts : List Tag} {i k : Nat} (hk : OpensAt ts k)
    (hi' : Closed (ts.drop (i + 1))) (hk' : Closed (ts.drop (k + 1))) : ¬ i < k := by
  intro hlt
  have ho : OpensAt (ts.drop (i + 1)) (k - (i + 1)) := by
    unfold OpensAt
    rw [List.getElem?_drop, show i + 1 + (k - (i + 1)) = k by omega]
    exact hk
  obtain ⟨a, ha, hsplit⟩ := ho.split
  rw [List.drop_drop, show i + 1 + (k - (i + 1) + 1) = k + 1 by omega] at hsplit
  rw [hsplit] at hi'
  exact hi'.not_open_rest ha hk'

/-- **A closing tag has at most one partner.** -/
theorem Paired.left_unique {ts : List Tag} {i k j : Nat} (hi : Paired ts i j)
    (hk : Paired ts k j) : i = k := by
  have hopen : ∀ {l : Nat}, Paired ts l j → OpensAt (ts.take j) l := by
    rintro l ⟨hl, ho, -⟩
    unfold OpensAt
    rw [List.getElem?_take_of_lt hl]
    exact ho
  have h1 := not_lt_of_closed_rest (hopen hk) hi.2.2.2 hk.2.2.2
  have h2 := not_lt_of_closed_rest (hopen hi) hk.2.2.2 hi.2.2.2
  omega

/-- No opening tag has a further partner after its first one: the word up to there would have
closed more than it has opened. -/
theorem Paired.not_lt_right {ts : List Tag} {i j k : Nat} (hj : Paired ts i j)
    (hk : Paired ts i k) : ¬ j < k := by
  intro hlt
  obtain ⟨hij, -, hc, hclosed⟩ := hj
  obtain ⟨b, hb, hkind⟩ := Option.map_eq_some_iff.mp hc
  have hlen : j < ts.length := (List.getElem?_eq_some_iff.mp hb).1
  have hword : (ts.take (j + 1)).drop (i + 1) = (ts.take j).drop (i + 1) ++ [b] := by
    rw [List.take_add_one, hb, List.drop_append_of_le_length]
    · rfl
    · rw [List.length_take]; omega
  have hinit : (ts.take j).drop (i + 1) ++ [b] <+: (ts.take k).drop (i + 1) := by
    rw [← hword]
    exact (List.take_prefix_take_left hlt).drop (i + 1)
  have h1 := hclosed.1
  have h2 := hk.2.2.2.le_of_initial hinit
  rw [openings_append, closings_append, openings_cons, closings_cons, hkind] at h2
  simp only [if_true, reduceCtorEq, if_false, openings_nil, closings_nil] at h2
  omega

/-- **An opening tag has at most one partner.** -/
theorem Paired.right_unique {ts : List Tag} {i j k : Nat} (hj : Paired ts i j)
    (hk : Paired ts i k) : j = k := by
  have h1 := hj.not_lt_right hk
  have h2 := hk.not_lt_right hj
  omega

-- the tags of `<a><b></c><u>` and `</i>`: names play no part, and `<a>` has no partner
example :
    let ts : List Tag := [⟨.opening, "a", 1⟩, ⟨.opening, "b", 1⟩, ⟨.closing, "c", 1⟩,
      ⟨.opening, "u", 1⟩, ⟨.closing, "i", 2⟩]
    pairs ts = [(1, 2), (3, 4)] ∧ unpaired ts = [0] := by
  decide +kernel

/-! ### A tag put after a list -/

section Concat
variable (ts : List Tag) (t : Tag)

/-- A tag put after a list changes nothing about the places of the list. -/
theorem opensAt_concat {i : Nat} (hi : i < ts.length) : OpensAt (ts ++ [t]) i ↔ OpensAt ts i := by
  unfold OpensAt
  rw [List.getElem?_append_left hi]

theorem paired_concat {i j : Nat} (hj : j < ts.length) :
    Paired (ts ++ [t]) i j ↔ Paired ts i j := by
  unfold Paired ClosesAt
  rw [List.getElem?_append_left hj, List.take_append_of_le_length hj.le]
  constructor
  · rintro ⟨hij, ho, hc⟩
    exact ⟨hij, (opensAt_concat ts t (by omega)).mp ho, hc⟩
  · rintro ⟨hij, ho, hc⟩
    exact ⟨hij, (opensAt_concat ts t (by omega)).mpr ho, hc⟩

theorem opensAt_last : OpensAt (ts ++ [t]) ts.length ↔ t.kind = .opening := by
  simp [OpensAt]

/-- The partners of a tag put after a list. -/
theorem paired_last {i : Nat} : Paired (ts ++ [t]) i ts.length ↔
    i < ts.length ∧ OpensAt ts i ∧ t.kind = .closing ∧ Closed (ts.drop (i + 1)) := by
  have hc : ClosesAt (ts ++ [t]) ts.length ↔ t.kind = .closing := by simp [ClosesAt]
  unfold Paired
  rw [hc, List.take_left]
  constructor
  · rintro ⟨hi, ho, h⟩
    exact ⟨hi, (opensAt_concat ts t hi).mp ho, h⟩
  · rintro ⟨hi, ho, h⟩
    exact ⟨hi, (opensAt_concat ts t hi).mpr ho, h⟩

theorem pairs_concat : pairs (ts ++ [t]) = pairs ts ++
    ((List.range ts.length).filter fun i => Paired (ts ++ [t]) i ts.length).map
      fun i => (i, ts.length) := by
  have hold : ∀ j ∈ List.range ts.length,
      (((List.range j).filter fun i => Paired (ts ++ [t]) i j).map fun i => (i, j)) =
        ((List.range j).filter fun i => Paired ts i j).map fun i => (i, j) := by
    intro j hj
    simp only [paired_concat ts t (List.mem_range.mp hj)]
  unfold pairs
  rw [List.length_append, List.length_singleton, List.range_succ, List.flatMap_append,
    List.flatMap_congr hold, List.flatMap_singleton]

theorem unpaired_concat : unpaired (ts ++ [t]) =
    ((unpaired ts).filter fun i => ¬ Paired (ts ++ [t]) i ts.length) ++
      if t.kind = .opening then [ts.length] else [] := by
  unfold unpaired
  rw [List.length_append, List.length_singleton, List.range_succ, List.filter_append,
    List.filter_filter]
  congr 1
  · refine List.filter_congr fun i hi => ?_
    have hi' := List.mem_range.mp hi
    rw [← Bool.decide_and, decide_eq_decide, opensAt_concat ts t hi', Nat.forall_lt_succ_right]
    constructor
    · rintro ⟨ho, hj, hlast⟩
      exact ⟨hlast, ho, fun j hjl hp => hj j hjl ((paired_concat ts t hjl).mpr hp)⟩
    · rintro ⟨hlast, ho, hj⟩
      exact ⟨ho, fun j hjl hp => hj j hjl ((paired_concat ts t hjl).mp hp), hlast⟩
  · -- nothing stands behind the new tag that could close it
    have hnone : ∀ j < ts.length + 1, ¬ Paired (ts ++ [t]) ts.length j := by
      rintro j hj ⟨hlt, -⟩
      omega
    by_cases ht : t.kind = .opening
    · simpa [opensAt_last, ht] using hnone
    · simp [opensAt_last, ht]

end Concat

/-! ### The partner of a tag put after levels of closed words -/

/-- **The partner of a closing tag is the innermost open tag**, if there is one. -/
theorem paired_last_iff {s : List (Nat × Tag)} {ts : List Tag} (h : Levels Closed s ts) {t : Tag}
    (ht : t.kind = .closing) {i : Nat} :
    Paired (ts ++ [t]) i ts.length ↔ ∃ a s', s = (i, a) :: s' := by
  have inner : ∀ {k : Nat} {a : Tag} {s' : List (Nat × Tag)}, Levels Closed ((k, a) :: s') ts →
      Paired (ts ++ [t]) k ts.length := by
    intro k a s' h
    obtain ⟨us, w, rfl, rfl, ha, -, hw⟩ := h.of_cons
    rw [paired_last]
    exact ⟨by simp, by simp [OpensAt, ha], ht, by simpa using hw⟩
  constructor
  · intro hp
    rcases s with _ | ⟨⟨k, a⟩, s'⟩
    · -- nothing is open, so no opening tag has a closed rest
      obtain ⟨-, ho, -, hrest⟩ := (paired_last ts t).mp hp
      obtain ⟨b, hb, hsplit⟩ := ho.split
      have hts := h.of_nil
      rw [hsplit] at hts
      exact absurd hrest (hts.not_open_rest hb)
    · obtain rfl := hp.left_unique (inner h)
      exact ⟨a, s', rfl⟩
  · rintro ⟨a, s', rfl⟩
    exact inner h

end TagNesting
