/-!
# Faults in a pattern

Why a text is no pattern, and the wording of each reason.
-/

namespace TagNesting.Text.Pattern

/-- Why a text is no pattern. -/
inductive Fault where
  /-- An escape in a set stands for a place and not for characters. -/
  | setEscape
  /-- A range in a set ends before it begins. -/
  | setRange
  /-- A range in a set has an end that is no single character. -/
  | setRangeEnd
  | setUnclosed
  /-- A number is too large. -/
  | number
  | hexEmpty
  /-- The hexadecimal digits denote no character. -/
  | hexInvalid
  | hexDigit
  /-- The pattern ends in the middle of an escape. -/
  | escapeEnd
  | escapeUnknown
  | flagNegationDangling
  | flagRepeated
  | flagNegationRepeated
  /-- The pattern ends in the middle of flags. -/
  | flagEnd
  | flagUnknown
  | nameRepeated
  | nameEmpty
  | nameInvalid
  /-- The pattern ends in the middle of a name. -/
  | nameEnd
  | groupUnclosed
  | groupUnopened
  /-- A repetition's largest number is below its least. -/
  | countRange
  | countEmpty
  | countUnclosed
  /-- There is nothing to repeat. -/
  | nothingToRepeat
  | boundaryUnclosed
  | boundaryUnknown
  /-- The pattern ends after the brace that follows the mark of a word boundary. -/
  | boundaryEnd
  /-- A property's name is written wrongly. -/
  | property
  | backreference
  | lookAround
  /-- There is no property of that name. -/
  | propertyUnknown
  /-- A character beyond the first 128 stands where only those are allowed. -/
  | notAscii
  /-- The pattern could match a part of a character. -/
  | partOfCharacter
  deriving DecidableEq, Repr

/-- The wording of a fault. -/
def Fault.message : Fault → String
  | .setEscape => "invalid escape sequence found in character class"
  | .setRange => "invalid character class range, the start must be <= the end"
  | .setRangeEnd => "invalid range boundary, must be a literal"
  | .setUnclosed => "unclosed character class"
  | .number => "decimal literal invalid"
  | .hexEmpty => "hexadecimal literal empty"
  | .hexInvalid => "hexadecimal literal is not a Unicode scalar value"
  | .hexDigit => "invalid hexadecimal digit"
  | .escapeEnd => "incomplete escape sequence, reached end of pattern prematurely"
  | .escapeUnknown => "unrecognized escape sequence"
  | .flagNegationDangling => "dangling flag negation operator"
  | .flagRepeated => "duplicate flag"
  | .flagNegationRepeated => "flag negation operator repeated"
  | .flagEnd => "expected flag but got end of regex"
  | .flagUnknown => "unrecognized flag"
  | .nameRepeated => "duplicate capture group name"
  | .nameEmpty => "empty capture group name"
  | .nameInvalid => "invalid capture group character"
  | .nameEnd => "unclosed capture group name"
  | .groupUnclosed => "unclosed group"
  | .groupUnopened => "unopened group"
  | .countRange => "invalid repetition count range, the start must be <= the end"
  | .countEmpty => "repetition quantifier expects a valid decimal"
  | .countUnclosed => "unclosed counted repetition"
  | .nothingToRepeat => "repetition operator missing expression"
  | .boundaryUnclosed =>
    "special word boundary assertion is either unclosed or contains an invalid character"
  | .boundaryUnknown =>
    "unrecognized special word boundary assertion, valid choices are: " ++
      "start, end, start-half or end-half"
  | .boundaryEnd =>
    "found either the beginning of a special word boundary or a bounded repetition " ++
      "on a \\b with an opening brace, but no closing brace"
  | .property => "invalid Unicode character class"
  | .backreference => "backreferences are not supported"
  | .lookAround => "look-around, including look-ahead and look-behind, is not supported"
  | .propertyUnknown => "Unicode property not found"
  | .notAscii => "Unicode not allowed here"
  | .partOfCharacter => "pattern can match invalid UTF-8"

end TagNesting.Text.Pattern
