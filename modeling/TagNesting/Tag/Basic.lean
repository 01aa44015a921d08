/-!
# Tags

A tag has a kind, a name and the number of the line it stands on.  The kind is read off the tag's
text: a tag that ends in `/>` closes itself even if it begins with `</`; any other tag that begins
with `</` closes the innermost open one; a void element closes itself; all other tags open a level.
-/

namespace TagNesting

/-- How a tag acts on the nesting. -/
inductive Kind where
  /-- Opens a level. -/
  | opening
  /-- Closes the innermost open level. -/
  | closing
  /-- Leaves the nesting as it is. -/
  | selfClosing
  deriving DecidableEq, Repr

/-- A tag of a line. -/
structure Tag where
  kind : Kind
  name : String
  line : Nat
  deriving DecidableEq, Repr

/-- The elements that have no closing tag.  Names are compared exactly, so `IMG` is none of them. -/
def voidElements : List String := ["input", "img", "br", "hr"]

/-- **The kind of a tag**, from its whole text and its name. -/
def Kind.classify (text : List Char) (name : String) : Kind :=
  if ['/', '>'].isSuffixOf text then .selfClosing
  else if ['<', '/'].isPrefixOf text then .closing
  else if name ∈ voidElements then .selfClosing
  else .opening

end TagNesting
