/-!
# Choices

Some settings take one of a few names.  A choice is the list of those names with their values; a
name that is not in the list is answered with the names that are.
-/

namespace TagNesting

/-- The names that a message offers: one by itself, two joined by "or", more as a list. -/
def offer (names : List String) : String :=
  match names.map fun n => "`" ++ n ++ "`" with
  | [] => ""
  | [a] => a
  | [a, b] => a ++ " or " ++ b
  | more => "one of " ++ ", ".intercalate more

namespace Choice

variable {α : Type}

/-- The value of a name. -/
def find? (options : List (String × α)) (name : String) : Option α := options.lookup name

/-- The answer to a name that is none of the options. -/
def unknown (options : List (String × α)) (name : String) : String :=
  "unknown variant `" ++ name ++ "`, expected " ++ offer (options.map (·.1))

end Choice

end TagNesting
