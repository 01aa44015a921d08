import TagNesting.Text.Pattern.Basic
import TagNesting.Text.Pattern.Fault

/-!
# Reading a pattern

A pattern is written as a sequence of pieces, and `|` divides the branches of a choice.  A piece is
a character, an escape, a dot, an anchor, a set between brackets or a group between parentheses, and
may be followed by a repetition.  Flags between parentheses hold from there to the end of the group
around them.

What is written is read from left to right, and the first fault decides; a fault that only the
meaning of a piece shows comes after all others.  Every step reads at least one character, so the
length of the text bounds the reading.
-/

namespace TagNesting.Text.Pattern

/-- What the letters between `(?` and `)` switch on. -/
structure Flags where
  /-- Letters stand for all their cases. -/
  anyCase : Bool := false
  /-- `^` and `$` stand for the ends of lines. -/
  lines : Bool := false
  /-- A dot stands for line ends too. -/
  dotAll : Bool := false
  /-- Classes hold characters beyond the first 128. -/
  wide : Bool := true
  /-- Carriage returns end lines too. -/
  carriage : Bool := false
  /-- Blanks and comments are left out. -/
  verbose : Bool := false
  deriving DecidableEq, Repr

/-- How far the reading has come. -/
structure State where
  rest : List Char
  flags : Flags := {}
  /-- The names of groups so far. -/
  names : List String := []
  /-- The first fault that only the meaning of a piece shows. -/
  later : Option Fault := none

/-- Reads something off the front of a pattern. -/
abbrev Reader := StateT State (Except Fault)

namespace Reader

/-- What is left. -/
def rest : Reader (List Char) := return (← get).rest

/-- The next character, which is not read. -/
def peek? : Reader (Option Char) := return (← rest).head?

/-- Leaves out the next characters. -/
def skip (n : Nat) : Reader Unit := modify fun s => { s with rest := s.rest.drop n }

/-- The text without the blanks and comments at its front. -/
def dropSpace (inComment : Bool) : List Char → List Char
  | [] => []
  | c :: cs =>
    if inComment then dropSpace (c ≠ '\n') cs
    else if isSpace c then dropSpace false cs
    else if c = '#' then dropSpace true cs
    else c :: cs

/-- Leaves out blanks and comments where they do not count. -/
def skipSpace : Reader Unit :=
  modify fun s => if s.flags.verbose then { s with rest := dropSpace false s.rest } else s

/-- Leaves out one character and the space after it. -/
def advance : Reader Unit := do
  skip 1
  skipSpace

/-- Reads a text if it comes next, and says whether it did. -/
def accept (text : String) : Reader Bool := do
  if text.toList.isPrefixOf (← rest) then
    skip text.length
    return true
  return false

/-- Notes a fault of meaning. -/
def note (f : Fault) : Reader Unit := modify fun s => { s with later := s.later.or (some f) }

/-- The flags. -/
def flags : Reader Flags := return (← get).flags

/-! ### Characters and classes -/

/-- What an escape or a single character stands for. -/
inductive Piece where
  | literal (c : Char)
  | set (s : Charset)
  | place (a : Anchor)

/-- A set of which only the first 128 characters may count; its complement then could match a part
of a character. -/
def classSet (wide ascii : Charset) (negated : Bool) : Reader Charset := do
  let s := if (← flags).wide then wide else ascii
  if negated then
    unless (← flags).wide do note .partOfCharacter
    return .compl s
  return s

/-- The sets of the escapes of one letter. -/
def classEscape? (c : Char) : Option (Reader Charset) :=
  match c with
  | 'd' => some (classSet .digits .asciiDigits false)
  | 'D' => some (classSet .digits .asciiDigits true)
  | 's' => some (classSet .spaces .asciiSpaces false)
  | 'S' => some (classSet .spaces .asciiSpaces true)
  | 'w' => some (classSet .words .asciiWords false)
  | 'W' => some (classSet .words .asciiWords true)
  | _ => none

/-- The word characters of anchors. -/
def letters : Reader Charset := return if (← flags).wide then .words else .asciiWords

/-- The value of a hexadecimal digit. -/
def hexDigit? (c : Char) : Option Nat :=
  if '0' ≤ c ∧ c ≤ '9' then some (c.toNat - '0'.toNat)
  else if 'a' ≤ c ∧ c ≤ 'f' then some (c.toNat - 'a'.toNat + 10)
  else if 'A' ≤ c ∧ c ≤ 'F' then some (c.toNat - 'A'.toNat + 10)
  else none

/-- Reads so many hexadecimal digits. -/
def readHexDigits : Nat → Nat → Reader Nat
  | 0, value => return value
  | n + 1, value => do
    match ← peek? with
    | none => throw .escapeEnd
    | some c =>
      match hexDigit? c with
      | none => throw .hexDigit
      | some d =>
        advance
        readHexDigits n (16 * value + d)

/-- Reads hexadecimal digits up to a brace, given how many characters are left. -/
def readHexBrace : Nat → Option Nat → Reader Nat
  | 0, _ => throw .escapeEnd
  | n + 1, value => do
    match ← peek? with
    | none => throw .escapeEnd
    | some '\x7d' =>
      advance
      match value with
      | none => throw .hexEmpty
      | some v => return v
    | some c =>
      match hexDigit? c with
      | none => throw .hexDigit
      | some d =>
        advance
        readHexBrace n (some (16 * value.getD 0 + d))

/-- Reads the character that hexadecimal digits denote, given how many there are without braces. -/
def readHex (digits : Nat) : Reader Char := do
  advance
  let value ←
    match ← peek? with
    | none => throw .escapeEnd
    | some '\x7b' =>
      advance
      readHexBrace ((← rest).length + 1) none
    | some _ => readHexDigits digits 0
  if value.isValidChar then return Char.ofNat value
  throw .hexInvalid

/-- The properties that have a name, written in small letters without dividers. -/
def properties : List (String × Charset) :=
  [("any", .all), ("ascii", .range '\x00' '\x7f'), ("nd", .digits), ("decimalnumber", .digits),
   ("digit", .digits), ("whitespace", .spaces), ("wspace", .spaces), ("space", .spaces)]

/-- Reads a property. -/
def readProperty (negated : Bool) : Reader Charset := do
  advance
  let name ←
    match ← peek? with
    | none => throw .escapeEnd
    | some '\x7b' =>
      let name := ((← rest).drop 1).takeWhile (· ≠ '\x7d')
      skip (name.length + 1)
      unless ← accept "\x7d" do throw .escapeEnd
      pure name
    | some c =>
      if c = '\\' then throw .property
      advance
      pure [c]
  let plain := (name.filter fun c => !(c ∈ ['_', '-', ' '])).map Char.toLower
  match properties.lookup (String.ofList plain) with
  | some s => return if negated then .compl s else s
  | none =>
    note .propertyUnknown
    return .empty

/-- The characters that stand for themselves behind a backslash. -/
def isEscapable (c : Char) : Bool :=
  c.toNat < 0x80 && !c.isAlphanum && c ≠ '<' && c ≠ '>'

/-- The word boundaries that have a name between braces. -/
def namedBoundaries : List (String × (Charset → Anchor)) :=
  [("start", .wordStart), ("end", .wordEnd), ("start-half", .halfStart), ("end-half", .halfEnd)]

/-- Reads the name between braces behind the mark of a word boundary, if what follows is one. -/
def readBoundaryName : Reader (Option (Charset → Anchor)) := do
  let isNameChar (c : Char) : Bool := c.isAlpha || c = '-'
  unless (← peek?) = some '\x7b' do return none
  let before ← get
  advance
  match ← peek? with
  | none => throw .boundaryEnd
  | some c =>
    unless isNameChar c do
      set before
      return none
    let name := (← rest).takeWhile isNameChar
    skip name.length
    skipSpace
    unless ← accept "\x7d" do throw .boundaryUnclosed
    match namedBoundaries.lookup (String.ofList name) with
    | some a => return some a
    | none => throw .boundaryUnknown

/-- The characters that letters behind a backslash stand for. -/
def letterEscapes : List (Char × Char) :=
  [('a', '\x07'), ('f', '\x0c'), ('t', '\t'), ('n', '\n'), ('r', '\r'), ('v', '\x0b')]

/-- Reads an escape. -/
def readEscape : Reader Piece := do
  skip 1
  match ← peek? with
  | none => throw .escapeEnd
  | some c =>
    if '0' ≤ c ∧ c ≤ '9' then throw .backreference
    match c, classEscape? c with
    | 'x', _ => return .literal (← readHex 2)
    | 'u', _ => return .literal (← readHex 4)
    | 'U', _ => return .literal (← readHex 8)
    | 'p', _ => return .set (← readProperty false)
    | 'P', _ => return .set (← readProperty true)
    | _, some read =>
      skip 1
      return .set (← read)
    | _, none =>
      skip 1
      if isEscapable c then return .literal c
      match letterEscapes.lookup c, c with
      | some d, _ => return .literal d
      | none, 'A' => return .place .textStart
      | none, 'z' => return .place .textEnd
      | none, 'b' =>
        match ← readBoundaryName with
        | some a => return .place (a (← letters))
        | none => return .place (.boundary (← letters))
      | none, 'B' => return .place (.noBoundary (← letters))
      | none, '<' => return .place (.wordStart (← letters))
      | none, '>' => return .place (.wordEnd (← letters))
      | none, _ => throw .escapeUnknown

/-! ### Sets between brackets -/

/-- A set, with the cases of its letters where those do not count. -/
def cased (s : Charset) : Reader Charset := return if (← flags).anyCase then .anyCase s else s

/-- Reads one character or escape of a set. -/
def readSetPiece : Reader Piece := do
  match ← peek? with
  | none => throw .setUnclosed
  | some '\\' => readEscape
  | some c =>
    skip 1
    return .literal c

/-- The set of a piece. -/
def Piece.toSet : Piece → Reader Charset
  | .literal c => do
    unless (← flags).wide || c.toNat < 0x80 do note .notAscii
    return .single c
  | .set s => return s
  | .place _ => throw .setEscape

/-- The character of a piece that is an end of a range. -/
def Piece.toEnd : Piece → Reader Char
  | .literal c => return c
  | _ => throw .setRangeEnd

/-- The next character behind a hyphen, which is not read. -/
def afterHyphen? : Reader (Option Char) := do
  let tail := (← rest).drop 1
  return (if (← flags).verbose then dropSpace false tail else tail).head?

/-- Reads a character, an escape or a range of a set. -/
def readSetItem : Reader Charset := do
  let first ← readSetPiece
  skipSpace
  match ← peek? with
  | none => throw .setUnclosed
  | some c =>
    let next ← afterHyphen?
    if c ≠ '-' ∨ next = some ']' ∨ next = some '-' then return ← first.toSet
    advance
    let last ← readSetPiece
    let a ← first.toEnd
    let b ← last.toEnd
    if b < a then throw .setRange
    unless (← flags).wide || b.toNat < 0x80 do note .notAscii
    return .range a b

/-- A set with a name between brackets and colons, and how many characters that takes. -/
def namedSet? (cs : List Char) : Option (Charset × Nat) := do
  let behind ← if ['[', ':'].isPrefixOf cs then some (cs.drop 2) else none
  let negated := behind.head? = some '^'
  let behind := if negated then behind.drop 1 else behind
  let name := behind.takeWhile (· ≠ ':')
  if [':', ']'].isPrefixOf (behind.drop name.length) then
    let s ← Charset.byName.lookup (String.ofList name)
    return (if negated then .compl s else s, name.length + if negated then 5 else 4)
  else none

/-- An operation on sets and its left side. -/
structure Pending where
  operation : Charset → Charset → Charset
  left : Charset

/-- The set of what stands after an operation. -/
def joined (left : Option Pending) (right : Charset) : Reader Charset := do
  match left with
  | none => return right
  | some p => return p.operation (← cased p.left) (← cased right)

/-- Reads hyphens at the front of a set, which stand for themselves. -/
def readHyphens : Nat → Charset → Reader Charset
  | 0, s => return s
  | n + 1, s => do
    if (← peek?) = some '-' then
      advance
      readHyphens n (.single '-')
    else return s

mutual

/-- Reads a set between brackets, given how many characters are left. -/
def readSet : Nat → Reader Charset
  | 0 => throw .setUnclosed
  | n + 1 => do
    advance
    let negated := (← peek?) = some '^'
    if negated then advance
    let front ← readHyphens n .empty
    if front = .empty ∧ (← peek?) = some ']' then
      advance
      closeSet negated (← readSetMembers n none (.single ']'))
    else closeSet negated (← readSetMembers n none front)
where
  /-- The set, or all characters but those of the set. -/
  closeSet (negated : Bool) (s : Charset) : Reader Charset := do
    let s ← cased s
    if negated then
      unless (← flags).wide do note .partOfCharacter
      return .compl s
    return s

/-- Reads the members of a set, given how many characters are left, the operation that waits for its
right side, and the members of that side so far. -/
def readSetMembers : Nat → Option Pending → Charset → Reader Charset
  | 0, _, _ => throw .setUnclosed
  | n + 1, left, right => do
    skipSpace
    let cs ← rest
    let operation (f : Charset → Charset → Charset) : Reader Charset := do
      skip 2
      readSetMembers n (some ⟨f, ← joined left right⟩) .empty
    match cs with
    | [] => throw .setUnclosed
    | ']' :: _ =>
      skip 1
      joined left right
    | '[' :: _ =>
      match namedSet? cs with
      | some (s, length) =>
        skip length
        readSetMembers n left (.union right s)
      | none => readSetMembers n left (.union right (← readSet n))
    | '&' :: '&' :: _ => operation .inter
    | '-' :: '-' :: _ => operation .diff
    | '~' :: '~' :: _ => operation .symmDiff
    | _ => readSetMembers n left (.union right (← readSetItem))

end

/-! ### Groups and flags -/

/-- Switches one flag. -/
def switch (f : Flags) (letter : Char) (on : Bool) : Flags :=
  match letter with
  | 'i' => { f with anyCase := on }
  | 'm' => { f with lines := on }
  | 's' => { f with dotAll := on }
  | 'u' => { f with wide := on }
  | 'R' => { f with carriage := on }
  | 'x' => { f with verbose := on }
  | _ => f

/-- The letters of flags; one of them, which decides between longer and shorter matches, does not
change where a pattern matches. -/
def flagLetters : List Char := ['i', 'm', 's', 'U', 'u', 'R', 'x']

/-- Reads flags up to what ends them, given how many characters are left, the flags so far and
whether the last character was a hyphen. -/
def readFlags : Nat → List (Char × Bool) → Bool → Reader (List (Char × Bool))
  | 0, _, _ => throw .flagEnd
  | n + 1, found, dangling => do
    match ← peek? with
    | none => throw .flagEnd
    | some c =>
      let negated := found.any (·.1 = '-')
      if c = ':' ∨ c = ')' then
        if dangling then throw .flagNegationDangling
        return found
      else if c = '-' then
        if negated then throw .flagNegationRepeated
        skip 1
        readFlags n (found ++ [('-', true)]) true
      else
        unless c ∈ flagLetters do throw .flagUnknown
        if found.any (·.1 = c) then throw .flagRepeated
        skip 1
        readFlags n (found ++ [(c, !negated)]) false

/-- A character of a group's name. -/
def isNameChar (first : Bool) (c : Char) : Bool :=
  if first then c = '_' || (WordClass.isWordChar c && !DigitClass.isDecimalDigit c)
  else WordClass.isWordChar c || c ∈ ['.', '[', ']']

/-- Reads a group's name. -/
def readName : Reader Unit := do
  let cs ← rest
  let name := cs.takeWhile (· ≠ '>')
  if cs.isEmpty then throw .nameEnd
  unless name.take 1 |>.all (isNameChar true) do throw .nameInvalid
  unless name.drop 1 |>.all (isNameChar false) do throw .nameInvalid
  skip name.length
  unless ← accept ">" do throw .nameEnd
  if name.isEmpty then throw .nameEmpty
  let name := String.ofList name
  if name ∈ (← get).names then throw .nameRepeated
  modify fun s => { s with names := name :: s.names }

/-- Reads what opens a group, and says whether it does: flags alone open none. -/
def openGroup : Reader Bool := do
  skip 1
  skipSpace
  for mark in ["?=", "?!", "?<=", "?<!"] do
    if ← accept mark then throw .lookAround
  if ← accept "?P<" then
    readName
    return true
  if ← accept "?<" then
    readName
    return true
  unless ← accept "?" do return true
  if (← rest).isEmpty then throw .groupUnclosed
  let found ← readFlags ((← rest).length + 1) [] false
  let closed := (← peek?) = some ')'
  skip 1
  if closed ∧ found.isEmpty then throw .nothingToRepeat
  modify fun s => { s with flags := found.foldl (fun f (c, on) => switch f c on) s.flags }
  return !closed

/-! ### Repetitions -/

/-- Reads decimal digits, given how many characters are left. -/
def readDigits : Nat → Reader (List Char)
  | 0 => return []
  | n + 1 => do
    match ← peek? with
    | none => return []
    | some c =>
      if '0' ≤ c ∧ c ≤ '9' then
        advance
        return c :: (← readDigits n)
      else return []

/-- Leaves out blanks. -/
def skipBlanks : Reader Unit := modify fun s => { s with rest := s.rest.dropWhile isSpace }

/-- The largest number of a repetition, and one more. -/
def countBound : Nat := 4294967296

/-- Reads a number; what is wrong with it is told later. -/
def readCount : Reader (Except Fault Nat) := do
  skipBlanks
  let digits ← readDigits (← rest).length
  skipBlanks
  let value := digits.foldl (fun n c => 10 * n + (c.toNat - '0'.toNat)) 0
  if digits.isEmpty then return .error .countEmpty
  if countBound ≤ value then return .error .number
  return .ok value

/-- Leaves out the mark of a repetition that prefers few. -/
def skipLazy : Reader Unit := do discard (accept "?")

/-- Reads the numbers of a repetition between braces. -/
def readCounts : Reader (Nat × Option Nat) := do
  advance
  if (← rest).isEmpty then throw .countUnclosed
  let least ← readCount
  let counts ←
    match ← peek? with
    | none => throw .countUnclosed
    | some ',' =>
      advance
      match ← peek? with
      | none => throw .countUnclosed
      | some '\x7d' => pure ((← least), none)
      | some _ =>
        let least ← least
        let most ← readCount
        pure (least, some (← most))
    | some _ =>
      let n ← least
      pure (n, some n)
  unless (← peek?) = some '\x7d' do throw .countUnclosed
  advance
  skipLazy
  match counts with
  | (least, some most) => if most < least then throw .countRange
  | _ => pure ()
  return counts

/-! ### The whole -/

/-- The pattern of a piece outside brackets. -/
def Piece.toPattern : Piece → Reader Pattern
  | .literal c => return .one (if (← flags).anyCase then .cases c else .single c)
  | .set s => return .one s
  | .place a => return .place a

/-- Reads a piece that is neither a set nor a group. -/
def readPiece (c : Char) : Reader Pattern := do
  let f ← flags
  match c with
  | '\\' => (← readEscape).toPattern
  | '.' =>
    skip 1
    unless f.wide do note .partOfCharacter
    let excluded : Charset :=
      if f.dotAll then .empty
      else if f.carriage then .union (.single '\n') (.single '\r')
      else .single '\n'
    return .one (.compl excluded)
  | '^' =>
    skip 1
    return .place (if !f.lines then .textStart else if f.carriage then .lineStartCR else .lineStart)
  | '$' =>
    skip 1
    return .place (if !f.lines then .textEnd else if f.carriage then .lineEndCR else .lineEnd)
  | c =>
    skip 1
    (Piece.literal c).toPattern

/-- The branches of a choice that have been read and the pieces of the one that is being read, all
latest first; a piece that is flags alone holds no pattern. -/
structure Body where
  branches : List Pattern := []
  pieces : List (Option Pattern) := []

namespace Body

/-- The pattern of the pieces. -/
def branch (b : Body) : Pattern := sequence (b.pieces.reverse.filterMap id)

/-- The pattern of all branches. -/
def pattern (b : Body) : Pattern := choice (b.branch :: b.branches).reverse

/-- One more piece. -/
def push (b : Body) (p : Option Pattern) : Body := { b with pieces := p :: b.pieces }

/-- Repeats the last piece. -/
def repeatLast (b : Body) (least : Nat) (most : Option Nat) : Reader Body :=
  match b.pieces with
  | some p :: pieces => return { b with pieces := some (.several p least most) :: pieces }
  | _ => throw .nothingToRepeat

end Body

/-- Reads up to the end of a group or of the pattern, given how many characters are left. -/
def readBody : Nat → Body → Reader Pattern
  | 0, b => return b.pattern
  | n + 1, b => do
    skipSpace
    let uncounted (least : Nat) (most : Option Nat) : Reader Pattern := do
      let b ← b.repeatLast least most
      skip 1
      skipLazy
      readBody n b
    match ← peek? with
    | none | some ')' => return b.pattern
    | some '|' =>
      skip 1
      readBody n { branches := b.branch :: b.branches }
    | some '(' =>
      let outer ← flags
      if ← openGroup then
        let inside ← readBody n {}
        unless ← accept ")" do throw .groupUnclosed
        modify fun s => { s with flags := outer }
        readBody n (b.push (some inside))
      else readBody n (b.push none)
    | some '[' => readBody n (b.push (some (.one (← readSet ((← rest).length + 1)))))
    | some '?' => uncounted 0 (some 1)
    | some '*' => uncounted 0 none
    | some '+' => uncounted 1 none
    | some '\x7b' =>
      discard (b.repeatLast 0 none)
      let (least, most) ← readCounts
      readBody n (← b.repeatLast least most)
    | some c => readBody n (b.push (some (← readPiece c)))

/-- Reads a whole pattern. -/
def readPattern : Reader Pattern := do
  let p ← readBody ((← rest).length + 1) {}
  unless (← rest).isEmpty do throw .groupUnopened
  match (← get).later with
  | some f => throw f
  | none => return p

end Reader

/-- **Reads a pattern.** -/
def parse (text : String) : Except Fault Pattern :=
  (Reader.readPattern.run' { rest := text.toList })

end TagNesting.Text.Pattern
