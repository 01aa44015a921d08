import Mathlib.Data.Set.Basic
import TagNesting.Proofs.Nesting.Grammar
import TagNesting.Proofs.Nesting.Pairing

/-!
# Balance of the tags of some names

In a well-nested word whose pairs never join a name of a class with one outside it, the tags with
names of the class are well-nested again, whatever stands between them (`WellNested.tagsNamed`).  A
policy that reports only the mismatches with `div` admits no pair of `div` and another name, and one
that reports all mismatches admits equal names only.  So a silent check of a document leaves no
imbalance of `div` unseen, and under the latter policy none of any set of names.
-/

namespace TagNesting

open TagNesting.Text

/-- The opening and closing tags whose names are in a class. -/
def tagsNamed (N : String → Prop) [DecidablePred N] (ts : List Tag) : List Tag :=
  ts.filter fun t => t.kind ≠ .selfClosing ∧ N t.name

section TagsNamed
variable (N : String → Prop) [DecidablePred N] {ts us : List Tag} {t : Tag}

theorem tagsNamed_append : tagsNamed N (ts ++ us) = tagsNamed N ts ++ tagsNamed N us :=
  List.filter_append ..

theorem tagsNamed_cons_selfClosing (ht : t.kind = .selfClosing) :
    tagsNamed N (t :: ts) = tagsNamed N ts :=
  List.filter_cons_of_neg (by simp [ht])

theorem tagsNamed_cons_of_not (ht : ¬ N t.name) : tagsNamed N (t :: ts) = tagsNamed N ts :=
  List.filter_cons_of_neg (by simp [ht])

theorem tagsNamed_cons (hk : t.kind ≠ .selfClosing) (ht : N t.name) :
    tagsNamed N (t :: ts) = t :: tagsNamed N ts :=
  List.filter_cons_of_pos (by simp [hk, ht])

end TagsNamed

namespace WellNested

variable {admits : String → String → Prop} {ts : List Tag}

/-- **The tags of some names are well-nested** if no admitted pair joins such a name with another. -/
theorem tagsNamed {N : String → Prop} [DecidablePred N] (hN : ∀ a b, admits a b → (N a ↔ N b))
    (h : WellNested admits ts) : WellNested admits (tagsNamed N ts) := by
  induction h with
  | empty => exact .empty
  | selfClosing ht _ ih =>
    rw [tagsNamed_cons_selfClosing N ht]
    exact ih
  | @pair a b inner rest ha hb hab _ _ ihi ihr =>
    have hka : a.kind ≠ .selfClosing := by rw [ha]; decide
    have hkb : b.kind ≠ .selfClosing := by rw [hb]; decide
    -- a pair is kept or left out as a whole
    by_cases hNa : N a.name
    · have hNb := (hN _ _ hab).mp hNa
      rw [tagsNamed_cons N hka hNa, tagsNamed_append, tagsNamed_cons N hkb hNb]
      exact .pair ha hb hab ihi ihr
    · have hNb : ¬ N b.name := fun hb' => hNa ((hN _ _ hab).mpr hb')
      rw [tagsNamed_cons_of_not N hNa, tagsNamed_append, tagsNamed_cons_of_not N hNb]
      exact ihi.append ihr

/-- A well-nested word is closed, names aside. -/
theorem closed (h : WellNested admits ts) : Closed ts := by
  have hW := Closed.concatenative
  induction h with
  | empty => exact hW.nil
  | selfClosing ht _ ih => exact hW.append (Closed.singleton ht) ih
  | @pair a b inner rest ha hb _ _ _ ihi ihr =>
    have hpair := hW.append (ihi.enclose ha hb) ihr
    rwa [List.cons_append, List.append_assoc, List.singleton_append] at hpair

end WellNested

theorem Policy.divOnly_admits_iff {a b : String} (h : Policy.divOnly.Admits a b) :
    a = "div" ↔ b = "div" := by
  rcases (Policy.admits_divOnly a b).mp h with rfl | ⟨ha, hb⟩
  · exact Iff.rfl
  · exact ⟨fun h => absurd h ha, fun h => absurd h hb⟩

theorem isBalanced_run_wellNested {p : Policy} {ts : List Tag} (h : WellNested p.Admits ts) :
    ((Checker.new p).run ts).finish.isBalanced = true := by
  rw [run_wellNested (c := Checker.new p) rfl h]
  rfl

/-- **No imbalance of `div` escapes a check.**  If a document is balanced as far as mismatches with
`div` go, then its `div` tags taken alone are balanced, and so are all others.  If it is balanced as
far as all mismatches go, then for every set of names the tags of these names are balanced, and the
checker accepts them on their own. -/
theorem closed_tagsNamed_of_isBalanced (document : String) :
    ((checkDocument document .divOnly).isBalanced = true →
      Closed (tagsNamed (· = "div") (tagsOfDocument document)) ∧
      Closed (tagsNamed (· ≠ "div") (tagsOfDocument document))) ∧
    ((checkDocument document .all).isBalanced = true →
      ∀ (N : Set String) [DecidablePred (· ∈ N)],
        Closed (tagsNamed (· ∈ N) (tagsOfDocument document)) ∧
        ((Checker.new .all).run (tagsNamed (· ∈ N) (tagsOfDocument document))).finish.isBalanced =
          true) := by
  constructor
  · intro h
    have hnested := (isBalanced_checkLines_iff (linesOf document) .divOnly).mp h
    exact ⟨(hnested.tagsNamed fun _ _ hab => Policy.divOnly_admits_iff hab).closed,
      (hnested.tagsNamed fun _ _ hab => not_congr (Policy.divOnly_admits_iff hab)).closed⟩
  · intro h N _
    have hnested := (isBalanced_checkLines_iff (linesOf document) .all).mp h
    have hN : WellNested Policy.all.Admits (tagsNamed (· ∈ N) (tagsOfDocument document)) := by
      refine hnested.tagsNamed fun a b hab => ?_
      rw [(Policy.admits_all a b).mp hab]
    exact ⟨hN.closed, isBalanced_run_wellNested hN⟩

/-- The silent mismatch of `<p>` and `</i>` inside a `div` and around another touches neither; and a
document without a mismatch keeps its `a` and `b` tags balanced. -/
theorem closed_tagsNamed_of_nested_div :
    (checkDocument "<div><p>\n<div></div></i></div>" .divOnly).isBalanced = true ∧
    Closed (tagsNamed (· = "div") (tagsOfDocument "<div><p>\n<div></div></i></div>")) ∧
    (checkDocument "<a><u></u>\n<b></b></a>" .all).isBalanced = true ∧
    ((Checker.new .all).run (tagsNamed (· ∈ ({n | n = "a" ∨ n = "b"} : Set String))
      (tagsOfDocument "<a><u></u>\n<b></b></a>"))).finish.isBalanced = true := by
  have h : (checkDocument "<div><p>\n<div></div></i></div>" .divOnly).isBalanced = true := by
    decide +kernel
  have h' : (checkDocument "<a><u></u>\n<b></b></a>" .all).isBalanced = true := by decide +kernel
  exact ⟨h, ((closed_tagsNamed_of_isBalanced _).1 h).1, h',
    ((closed_tagsNamed_of_isBalanced _).2 h' {n | n = "a" ∨ n = "b"}).2⟩

end TagNesting
