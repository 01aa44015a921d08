import TagNesting.Json
import TagNesting.Proofs.Json.Reader

/-!
# The indented form of a value

The indented form that the library writes is a JSON text of the value it was written for
(`isText_render`): the escapes are those of the grammar, a natural number has no needless zero in
front, and the line ends and the indentation are blanks where the grammar has blanks.
-/

namespace TagNesting.Json

theorem sizeOf_item_lt {items : List Json} {v : Json} (h : v ∈ items) :
    sizeOf v < sizeOf (Json.array items) := by
  have hlt := List.sizeOf_lt_of_mem h
  rw [array.sizeOf_spec]
  omega

theorem sizeOf_member_lt {members : List (String × Json)} {m : String × Json} (h : m ∈ members) :
    sizeOf m.2 < sizeOf (Json.object members) := by
  have hlt := List.sizeOf_lt_of_mem h
  rcases m with ⟨key, v⟩
  simp only [Prod.mk.sizeOf_spec, object.sizeOf_spec] at hlt ⊢
  omega

/-- The value that is written. -/
def value : Json → Value
  | .bool b => .bool b
  | .number n => .number n
  | .string s => .string s
  | .array items => .array (items.map value)
  | .object members => .object (members.map fun m => (m.1, value m.2))
decreasing_by
  · exact sizeOf_item_lt ‹_›
  · exact sizeOf_member_lt ‹_›

/-! ### Strings -/

theorem quadValue?_hexDigit : ∀ n < 0x20,
    quadValue? '0' '0' (hexDigit (n / 16)) (hexDigit (n % 16)) = some n := by
  decide

theorem piece_escape (c : Char) : Piece (escape c) c := by
  unfold escape
  split_ifs with hquote hslash hn hr ht hb hf hcontrol
  · subst hquote; exact .short (by decide)
  · subst hslash; exact .short (by decide)
  · subst hn; exact .short (by decide)
  · subst hr; exact .short (by decide)
  · subst ht; exact .short (by decide)
  · subst hb; exact .short (by decide)
  · subst hf; exact .short (by decide)
  · exact .unit (quadValue?_hexDigit c.toNat hcontrol)
  · exact .plain (Nat.le_of_not_lt hcontrol) hquote hslash

theorem chars_escape (cs : List Char) : Chars (cs.flatMap escape) cs := by
  induction cs with
  | nil => exact .nil
  | cons c cs ih =>
    rw [List.flatMap_cons]
    exact .cons (piece_escape c) ih

theorem quoted_quote (s : String) : Quoted (quote s) s :=
  ⟨s.toList.flatMap escape, chars_escape s.toList, rfl⟩

/-! ### Numbers -/

theorem digitChar_ne_zero : ∀ n < 10, 0 < n → [n.digitChar].head? ≠ some '0' := by
  decide

theorem head?_toDigits {n : Nat} (hn : 0 < n) : (Nat.toDigits 10 n).head? ≠ some '0' := by
  induction n using Nat.strong_induction_on with
  | _ n ih =>
    rw [Nat.toDigits_eq_if (by decide)]
    split
    · next hlt => exact digitChar_ne_zero n hlt hn
    · next hge =>
      have hne : Nat.toDigits 10 (n / 10) ≠ [] := Nat.toDigits_ne_nil
      have hrest := ih (n / 10) (by omega) (by omega)
      obtain ⟨c, cs, hc⟩ := List.exists_cons_of_ne_nil hne
      rw [hc] at hrest ⊢
      exact hrest

/-- A natural number in decimal digits. -/
def Numeral.ofNat (n : Nat) : Numeral where
  negative := false
  whole := Nat.toDigits 10 n
  fraction := []
  exponent := none
  isDigits := ⟨Nat.toDigits_ne_nil, fun _ => Nat.isDigit_of_mem_toDigits (by decide) (by decide)⟩
  no_leading_zero := by
    intro h
    rcases Nat.eq_zero_or_pos n with rfl | hn
    · rfl
    · exact absurd h (head?_toDigits hn)
  fraction_digits := by simp

theorem Numeral.text_ofNat (n : Nat) : (Numeral.ofNat n).text = (toString n).toList := by
  rw [Nat.toString_eq_repr, Nat.toList_repr]
  simp [Numeral.text, Numeral.ofNat, Numeral.signText, Numeral.fractionText, Numeral.exponentText]

theorem Numeral.value_ofNat (n : Nat) : (Numeral.ofNat n).value = n := by
  simp [Numeral.value, Numeral.valueOf, Numeral.ofNat]

/-! ### Lists of values -/

theorem blank_newline (level : Nat) : Blank (newline level) := by
  intro c hc
  rcases List.mem_cons.mp hc with rfl | hc
  · rfl
  · rw [List.eq_of_mem_replicate hc]
    rfl

abbrev Blanks := { w : List Char // Blank w }

/-- The elements of a list, each with the blanks after it: none, but for the last one. -/
def closedBy {α : Type} (w : Blanks) : List α → List (α × Blanks)
  | [] => []
  | [a] => [(a, w)]
  | a :: b :: as => (a, ⟨[], by simp [Blank]⟩) :: closedBy w (b :: as)

theorem map_fst_closedBy {α : Type} (w : Blanks) (as : List α) :
    (closedBy w as).map Prod.fst = as := by
  fun_induction closedBy w as with
  | case1 => rfl
  | case2 a => rfl
  | case3 a b as ih => rw [List.map_cons, ih]

theorem map_closedBy {α β : Type} (w : Blanks) (as : List α) (f : α → β) :
    (closedBy w as).map (fun x => f x.1) = as.map f := by
  conv_rhs => rw [← map_fst_closedBy w as, List.map_map]
  rfl

theorem mem_of_mem_closedBy {α : Type} {w : Blanks} {as : List α} {x : α × Blanks}
    (h : x ∈ closedBy w as) : x.1 ∈ as := by
  rw [← map_fst_closedBy w as]
  exact List.mem_map_of_mem h

theorem closedBy_ne_nil {α : Type} (w : Blanks) {as : List α} (h : as ≠ []) :
    closedBy w as ≠ [] := by
  intro hnil
  have hmap := map_fst_closedBy w as
  rw [hnil] at hmap
  exact h hmap.symm

/-- The line end and the indentation at a level. -/
def indentation (level : Nat) : Blanks := ⟨newline level, blank_newline level⟩

/-- **Members between brackets are members with commas between them**; the last one is followed by
the line of the closing bracket. -/
theorem enclose_eq {α : Type} (left right : Char) (level : Nat) (text : α → List Char)
    {as : List α} (h : as ≠ []) :
    enclose left right level (as.map text) =
      left :: (joined ((closedBy (indentation level) as).map
        fun x => newline (level + 1) ++ (text x.1 ++ x.2.1)) ++ [right]) := by
  have main : ∀ (a : α) (as : List α), newline (level + 1) ++ text a ++
      (as.map text).flatMap (fun m => ',' :: (newline (level + 1) ++ m)) ++ newline level =
      joined ((closedBy (indentation level) (a :: as)).map
        fun x => newline (level + 1) ++ (text x.1 ++ x.2.1)) := by
    intro a as
    induction as generalizing a with
    | nil => simp [closedBy, joined, indentation]
    | cons b as ih =>
      have hjoined : joined ((closedBy (indentation level) (a :: b :: as)).map
          fun x => newline (level + 1) ++ (text x.1 ++ x.2.1)) =
          (newline (level + 1) ++ (text a ++ [])) ++
            ',' :: joined ((closedBy (indentation level) (b :: as)).map
              fun x => newline (level + 1) ++ (text x.1 ++ x.2.1)) := by
        rcases as with _ | ⟨c, as⟩
        · rfl
        · rfl
      rw [hjoined, ← ih b]
      simp
  obtain ⟨a, as, rfl⟩ := List.exists_cons_of_ne_nil h
  rw [← main a as, List.map_cons, enclose, List.append_assoc _ (newline level)]

theorem renderItems_eq (level : Nat) (items : List Json) :
    renderItems level items = items.map (render level) := by
  induction items with
  | nil => rfl
  | cons v vs ih => rw [renderItems, ih, List.map_cons]

theorem renderMembers_eq (level : Nat) (members : List (String × Json)) :
    renderMembers level members =
      members.map fun m => quote m.1 ++ ':' :: ' ' :: render level m.2 := by
  induction members with
  | nil => rfl
  | cons m ms ih => rw [renderMembers, ih, List.map_cons]

/-- A value on a line of its own. -/
def Item.indented (level : Nat) (x : Json × Blanks) : Item where
  before := newline level
  body := render level x.1
  after := x.2.1
  value := x.1.value
  blank_before := blank_newline level
  blank_after := x.2.2

/-- A member on a line of its own, with a blank after the colon. -/
def Member.indented (level : Nat) (x : (String × Json) × Blanks) : Member where
  before := newline level
  label := quote x.1.1
  key := x.1.1
  beforeColon := []
  item := ⟨[' '], render level x.1.2, x.2.1, x.1.2.value, by simp [Blank, isBlank], x.2.2⟩
  blank_before := blank_newline level
  quoted := quoted_quote x.1.1
  blank_beforeColon := by simp [Blank]

/-- **The indented form denotes the value that is written**, at every level. -/
theorem denotes_render (level : Nat) : ∀ v : Json, Denotes (render level v) v.value
  | .bool true => by
    rw [render, value]
    exact .isTrue
  | .bool false => by
    rw [render, value]
    exact .isFalse
  | .number n => by
    rw [render, value, ← Numeral.text_ofNat, ← Numeral.value_ofNat]
    exact .number (Numeral.ofNat n)
  | .string s => by
    rw [render, value]
    exact .string (quoted_quote s)
  | .array items => by
    rw [render, value, renderItems_eq]
    by_cases hne : items = []
    · subst hne
      exact .emptyArray (w := []) (by simp [Blank])
    · have hitems : ∀ i ∈ (closedBy (indentation level) items).map (Item.indented (level + 1)),
          Denotes i.body i.value := by
        intro i hi
        obtain ⟨x, hx, rfl⟩ := List.mem_map.mp hi
        exact denotes_render (level + 1) x.1
      have hdenotes := Denotes.array (by simpa using closedBy_ne_nil _ hne) hitems
      rw [List.map_map, List.map_map] at hdenotes
      rw [enclose_eq _ _ _ _ hne, ← map_closedBy (indentation level) items value]
      exact hdenotes
  | .object members => by
    rw [render, value, renderMembers_eq]
    by_cases hne : members = []
    · subst hne
      exact .emptyObject (w := []) (by simp [Blank])
    · have hmembers : ∀ m ∈ (closedBy (indentation level) members).map
          (Member.indented (level + 1)), Denotes m.item.body m.item.value := by
        intro m hm
        obtain ⟨x, hx, rfl⟩ := List.mem_map.mp hm
        exact denotes_render (level + 1) x.1.2
      have hdenotes := Denotes.object (by simpa using closedBy_ne_nil _ hne) hmembers
      rw [List.map_map, List.map_map] at hdenotes
      rw [enclose_eq _ _ _ _ hne,
        ← map_closedBy (indentation level) members fun m => (m.1, m.2.value)]
      have htext : ∀ x : (String × Json) × Blanks, (Member.indented (level + 1) x).text =
          newline (level + 1) ++ ((quote x.1.1 ++ ':' :: ' ' :: render (level + 1) x.1.2) ++
            x.2.1) := by
        intro x
        simp [Member.indented, Member.text, Item.text]
      simp only [Function.comp_def, htext] at hdenotes
      exact hdenotes
termination_by v => v
decreasing_by
  · exact sizeOf_item_lt (mem_of_mem_closedBy hx)
  · exact sizeOf_member_lt (mem_of_mem_closedBy hx)

/-- **The indented form is a JSON text**, with or without a line end after it. -/
theorem isText_render (v : Json) {w : List Char} (hw : Blank w) :
    IsText (render 0 v ++ w) v.value :=
  ⟨⟨[], render 0 v, w, v.value, by simp [Blank], hw⟩, denotes_render 0 v, rfl, rfl⟩

end TagNesting.Json
