import TagNesting.Nesting.Checker
import TagNesting.Tag.Cursor
import TagNesting.Text.Lines

/-!
# Checking lines and documents

A line is fed to the checker tag by tag: each tag is taken from the line, noted in the log and
applied, and the tags that follow the one at which the checker halts are never taken.  Lines are fed
in order, numbered from 1, until the checker halts.

Since a halted checker ignores further tags, the early end changes nothing but the log:
`Progress.drain_checker` says that draining a line is folding `Checker.apply` over all of its tags.
-/

namespace TagNesting

open TagNesting.Log TagNesting.Text

/-- A check under way: the checker and the log so far. -/
structure Progress where
  checker : Checker
  log : Array Event := #[]

namespace Progress

/-- Takes one tag: it is noted, and then applied. -/
def take (p : Progress) (t : Tag) : Progress where
  checker := p.checker.apply t
  log := p.log.push (.tagTaken t) ++ p.checker.note t

/-- Takes the tags of a line one by one until the checker halts or none is left. -/
def drain (p : Progress) (c : Cursor) : Progress :=
  match h : c.next? with
  | none => p
  | some (t, rest) =>
    have := Cursor.next?_length_lt h
    let q := p.take t
    if q.checker.halted then q else q.drain rest
termination_by c.rest.length

/-- **Feeds one line.**  A halted checker does not even count it. -/
def feed (p : Progress) (number : Nat) (line : String) : Progress :=
  if p.checker.halted then p
  else
    let counted := { p.checker with linesScanned := p.checker.linesScanned + 1 }
    drain { p with checker := counted } (Cursor.ofLine number line)

/-- What feeding a line tells the caller. -/
def feedSignal (p : Progress) (number : Nat) (line : String) : Signal :=
  if p.checker.halted then .halt else p.checker.signalAll (tagsOfLine number line)

/-- Feeds lines until the checker halts; the first has the given number. -/
def feedAll (p : Progress) (number : Nat) : List String → Progress
  | [] => p
  | line :: lines =>
    let q := p.feed number line
    if q.checker.halted then q else q.feedAll (number + 1) lines

/-- The check before its first line. -/
def start (policy : Policy) : Progress where
  checker := Checker.new policy

end Progress

/-- The report on a list of lines. -/
def checkLines (lines : List String) (policy : Policy) : Report :=
  ((Progress.start policy).feedAll 1 lines).checker.finish

/-- What checking a list of lines writes to the log. -/
def checkLog (lines : List String) (policy : Policy) : List Event :=
  ((Progress.start policy).feedAll 1 lines).log.toList

/-- **The report on a document.** -/
def checkDocument (document : String) (policy : Policy) : Report :=
  checkLines (linesOf document) policy

/-! ### The early end leaves the checker as folding over all tags does -/

theorem Checker.foldl_apply_of_halted {c : Checker} (h : c.halted = true) (ts : List Tag) :
    ts.foldl Checker.apply c = c := by
  induction ts with
  | nil => rfl
  | cons t ts ih => rw [List.foldl_cons, Checker.apply_of_halted h, ih]

theorem Progress.drain_checker (p : Progress) (c : Cursor) :
    (p.drain c).checker = c.tags.foldl Checker.apply p.checker := by
  fun_induction Progress.drain p c with
  | case1 p c h => rw [Cursor.tags_of_next?_eq_none h]; rfl
  | case2 p c t rest h _ q hq =>
    rw [Cursor.tags_of_next?_eq_some h, List.foldl_cons]
    exact (Checker.foldl_apply_of_halted hq rest.tags).symm
  | case3 p c t rest h _ q hq ih =>
    rw [Cursor.tags_of_next?_eq_some h, List.foldl_cons, ih]
    rfl

end TagNesting
