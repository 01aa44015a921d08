/-!
# Which mismatches are reported

A closing tag whose name differs from that of the innermost open tag closes it all the same.  The
policy only says whether the difference is reported: always, or only if one of the two names is the
distinguished one, `div`.
-/

namespace TagNesting

/-- Which differences between an open tag's name and a closing tag's name are reported. -/
inductive Policy where
  /-- Only those in which one of the names is `div`. -/
  | divOnly
  /-- All of them. -/
  | all
  deriving DecidableEq, Repr, Inhabited

namespace Policy

/-- The name whose mismatches are always reported. -/
def distinguished : String := "div"

/-- Whether a closing tag `found` for an open tag `expected` is reported. -/
def reports (p : Policy) (expected found : String) : Bool :=
  match p with
  | .divOnly => expected == distinguished || found == distinguished
  | .all => true

/-- The policies by the names that settings give them. -/
def byName : List (String × Policy) := [("div-only", .divOnly), ("all", .all)]

/-- The policy's name in settings. -/
def name : Policy → String
  | .divOnly => "div-only"
  | .all => "all"

/-- The policy's name in the log. -/
def label : Policy → String
  | .divOnly => "DivOnly"
  | .all => "All"

end Policy

end TagNesting
