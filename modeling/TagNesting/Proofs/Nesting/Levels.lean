import TagNesting.Proofs.Nesting.Run

/-!
# Lists of tags, split at the tags left open

After a run that has not halted, the tags fall into levels: `w₀ a₁ w₁ … aₙ wₙ`, where `a₁, …, aₙ`
are the opening tags still on the stack and every `wᵢ` is a word whose levels are all closed.
`Levels W s ts` says so, with the places of the open tags in `ts` kept beside them, innermost first
as on the stack, and the words drawn from a class `W`.

What a step does to the stack it does to the levels: an opening tag starts one (`Levels.push`), and
a closing tag turns the innermost one into a part of the word below it (`Levels.pop`).
-/

namespace TagNesting

/-- A class of words that holds the empty word and is closed under concatenation. -/
structure Concatenative (W : List Tag → Prop) : Prop where
  nil : W []
  append : ∀ {u v : List Tag}, W u → W v → W (u ++ v)

/-- **The levels of a list of tags**: its open tags, innermost first and each with its place, and
words of the class `W` before, between and after them. -/
inductive Levels (W : List Tag → Prop) : List (Nat × Tag) → List Tag → Prop
  /-- Nothing is open. -/
  | ground {w : List Tag} : W w → Levels W [] w
  /-- A further tag is open, with a word after it. -/
  | opened {s : List (Nat × Tag)} {ts w : List Tag} {a : Tag} :
      Levels W s ts → a.kind = .opening → W w → Levels W ((ts.length, a) :: s) (ts ++ a :: w)

/-- The stack that the checker keeps for the open tags. -/
def stackOf (s : List (Nat × Tag)) : List OpenTag := s.map fun x => OpenTag.ofTag x.2

namespace Levels

variable {W : List Tag → Prop} {s : List (Nat × Tag)} {ts w : List Tag} {a b : Tag} {i : Nat}

theorem of_nil (h : Levels W [] ts) : W ts := by
  cases h with
  | ground hw => exact hw

theorem of_cons (h : Levels W ((i, a) :: s) ts) :
    ∃ us w, ts = us ++ a :: w ∧ i = us.length ∧ a.kind = .opening ∧ Levels W s us ∧ W w := by
  cases h with
  | opened hs ha hw => exact ⟨_, _, rfl, rfl, ha, hs, hw⟩

/-- A word of the class goes to the innermost level. -/
theorem append (hW : Concatenative W) (h : Levels W s ts) (hw : W w) : Levels W s (ts ++ w) := by
  cases h with
  | ground hu => exact .ground (hW.append hu hw)
  | opened hs ha hu =>
    rw [List.append_assoc, List.cons_append]
    exact .opened hs ha (hW.append hu hw)

/-- An opening tag starts a level. -/
theorem push (hW : Concatenative W) (h : Levels W s ts) (ha : a.kind = .opening) :
    Levels W ((ts.length, a) :: s) (ts ++ [a]) :=
  .opened h ha hW.nil

/-- A closing tag that may close the innermost open tag ends its level. -/
theorem pop (hW : Concatenative W) (h : Levels W ((i, a) :: s) ts)
    (hpair : ∀ {w : List Tag}, a.kind = .opening → W w → W (a :: (w ++ [b]))) :
    Levels W s (ts ++ [b]) := by
  obtain ⟨us, w, rfl, -, ha, hs, hw⟩ := h.of_cons
  rw [List.append_assoc, List.cons_append]
  exact hs.append hW (hpair ha hw)

end Levels

end TagNesting
