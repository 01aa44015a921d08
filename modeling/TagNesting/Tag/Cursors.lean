import TagNesting.Log.Event
import TagNesting.Tag.Cursor

/-!
# Several cursors on one line

Cursors are values, so a copy goes on from the place of the cursor it was made from and neither
moves the other.  A family holds the cursors made so far, numbered from 0 in that order; a request
names one of them.
-/

namespace TagNesting

open TagNesting.Log

/-- The cursors made so far. -/
structure Cursors where
  members : Array Cursor
  deriving DecidableEq, Repr

namespace Cursors

/-- What can be asked of a cursor. -/
inductive Request where
  /-- Its next tag. -/
  | next
  /-- A copy of it. -/
  | copy
  /-- All of its remaining tags. -/
  | rest
  /-- How many tags remain. -/
  | count
  deriving DecidableEq, Repr

/-- The answer to a request. -/
inductive Reply where
  /-- The next tag, or nothing at the end. -/
  | tag (next : Option Tag)
  /-- The number of the copy. -/
  | copied (number : Nat)
  /-- The remaining tags. -/
  | tags (remaining : List Tag)
  /-- The number of the remaining tags. -/
  | counted (remaining : Nat)
  deriving DecidableEq, Repr

/-- The family of one cursor. -/
def single (c : Cursor) : Cursors := ⟨#[c]⟩

/-- Answers a request to cursor `i`, with the family afterwards and the log, which notes every tag
taken; a count takes the tags of a copy.  There is no answer if there is no such cursor. -/
def ask (cs : Cursors) (r : Request) (i : Nat) : Option (Cursors × Reply × List Event) :=
  cs.members[i]?.map fun c =>
    match r with
    | .next =>
      match c.next? with
      | none => (cs, .tag none, [])
      | some (t, d) => (⟨cs.members.set! i d⟩, .tag (some t), [.tagTaken t])
    | .copy => (⟨cs.members.push c⟩, .copied cs.members.size, [])
    | .rest => (⟨cs.members.set! i c.last⟩, .tags c.tags, c.tags.map .tagTaken)
    | .count => (cs, .counted c.tags.length, c.tags.map .tagTaken)

end Cursors

end TagNesting
