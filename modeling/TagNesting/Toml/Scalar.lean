import TagNesting.Toml.Value

/-!
# Numbers, truth values and dates

A value that is not quoted and not between brackets is a run of words, dots and blanks.  Its first
characters decide what it is taken for: a truth value, a named number, an integer, a fraction, or a
date, a time or both.  What is wrong with it shows at an offset into the run; a run that looks like
nothing in particular is wrong from its start.

* Underscores stand between two digits.
* Only decimal numbers have a sign, and none begins with a needless zero.
* An integer whose digits turn out to be no number of 64 bits, and a fraction beyond the largest one,
  are well formed but out of range.
-/

namespace TagNesting.Toml

open TagNesting.Decimal

/-! ### Digits -/

/-- A decimal digit. -/
def isDecimal (c : Char) : Bool := '0' ≤ c && c ≤ '9'

/-- A hexadecimal digit. -/
def isHexDigit (c : Char) : Bool := isDecimal c || ('a' ≤ c && c ≤ 'f') || ('A' ≤ c && c ≤ 'F')

/-- The value of a digit of any base up to sixteen. -/
def digitValue (c : Char) : Nat :=
  if c ≤ '9' then c.toNat - '0'.toNat
  else if c ≤ 'F' then c.toNat - 'A'.toNat + 10
  else c.toNat - 'a'.toNat + 10

/-- The number that digits denote. -/
def numberOf (base : Nat) (digits : List Char) : Nat :=
  digits.foldl (fun n c => base * n + digitValue c) 0

/-- A number with the sign `negative`. -/
def signed (negative : Bool) (n : Nat) : Int := if negative then -(n : Int) else n

/-- A sign, if there is one, and what follows it. -/
def splitSign : List Char → Bool × List Char
  | '-' :: cs => (true, cs)
  | '+' :: cs => (false, cs)
  | cs => (false, cs)

/-- The offset of the first underscore that does not stand between two digits, given the offset of
the text and the character before it. -/
def strayUnderscore? (isDigit : Char → Bool) : Nat → Option Char → List Char → Option Nat
  | _, _, [] => none
  | offset, left, c :: cs =>
    if c = '_' ∧ !(left.any isDigit && cs.head?.any isDigit) then some offset
    else strayUnderscore? isDigit (offset + 1) (some c) cs

/-- The text without its underscores, if they all stand between two digits.  One at the very start
or at the very end is told before any other. -/
def dropUnderscores (isDigit : Char → Bool) (offset : Nat) (cs : List Char) :
    Except Nat (List Char) :=
  if cs.head? = some '_' then .error 0
  else if cs.getLast? = some '_' then .error (offset + cs.length - 1)
  else
    match strayUnderscore? isDigit offset none cs with
    | some i => .error i
    | none => .ok (cs.filter (· ≠ '_'))

/-! ### Integers -/

/-- The integer of a sign and digits, if it is one of 64 bits. -/
def integerOf (negative : Bool) (base : Nat) (digits : List Char) : Value :=
  let n := signed negative (numberOf base digits)
  if -(pow2 63 : Int) ≤ n ∧ n < pow2 63 then .integer n else .outOfRange

/-- The bases that are named behind a zero, and their digits. -/
def bases : List (Char × Nat × (Char → Bool)) :=
  [('x', 16, isHexDigit), ('o', 8, fun c => '0' ≤ c && c ≤ '7'),
   ('b', 2, fun c => c = '0' || c = '1')]

/-- Reads an integer of a named base, given its base, its digits, and what stands behind the base's
name. -/
def readBased (base : Nat) (isDigit : Char → Bool) (digits : List Char) : Except Nat Value :=
  let valid := digits.takeWhile fun c => isDigit c || c = '_'
  if valid.length < digits.length then .error (2 + valid.length)
  else do
    let ds ← dropUnderscores isHexDigit 2 digits
    return if ds.isEmpty then .outOfRange else integerOf false base ds

/-- Reads an integer that begins with decimal digits, given the whole run. -/
def readDecimal (run : List Char) : Except Nat Value := do
  let (negative, ds) := splitSign (← dropUnderscores isHexDigit 0 run)
  return if ds.all isDecimal then integerOf negative 10 ds else .outOfRange

/-! ### Fractions -/

/-- Leaves out a run of digits and underscores with at least one digit, given its offset.  A
needless zero at its front may be forbidden. -/
def afterDigits (zeros : Bool) (offset : Nat) (cs : List Char) : Except Nat (Nat × List Char) :=
  let run := cs.takeWhile fun c => isDecimal c || c = '_'
  let count := run.countP isDecimal
  if count = 0 ∨ (2 ≤ count ∧ !zeros ∧ run.head? = some '0') then .error offset
  else .ok (offset + run.length, cs.drop run.length)

/-- The mark of an exponent. -/
def isExponentMark (c : Char) : Bool := c = 'e' || c = 'E'

/-- Checks the shape of a fraction from an offset: digits, a point and digits, a mark and an exponent
that may have a sign. -/
def checkFraction (offset : Nat) (cs : List Char) : Except Nat Unit := do
  let (offset, cs) ← afterDigits false offset cs
  let (offset, cs) ←
    match cs with
    | '.' :: tail => afterDigits true (offset + 1) tail
    | cs => pure (offset, cs)
  let (offset, cs) ←
    match cs with
    | c :: tail =>
      if isExponentMark c then
        match tail with
        | '+' :: ds | '-' :: ds => afterDigits true (offset + 2) ds
        | ds => afterDigits true (offset + 1) ds
      else pure (offset, cs)
    | [] => pure (offset, [])
  unless cs.isEmpty do throw offset

/-- The value of a fraction without underscores whose shape is right. -/
def fractionOf (cs : List Char) : Value :=
  let (negative, ds) := splitSign cs
  let whole := ds.takeWhile isDecimal
  let behind := ds.dropWhile isDecimal
  let fraction := if behind.head? = some '.' then (behind.drop 1).takeWhile isDecimal else []
  let exponent := splitSign ((behind.dropWhile fun c => !isExponentMark c).drop 1)
  let e := signed exponent.1 (numberOf 10 exponent.2) - fraction.length
  match Binary64.ofDecimal? (numberOf 10 (whole ++ fraction)) e with
  | some m => .float (.finite negative m)
  | none => .outOfRange

/-! ### Dates and times -/

/-- A number of exactly so many digits at the front, and what follows it. -/
def fixed? (digits : Nat) (cs : List Char) : Option (Nat × List Char) :=
  let ds := cs.take digits
  if ds.length = digits && ds.all isDecimal then some (numberOf 10 ds, cs.drop digits) else none

/-- What follows a character that must come first. -/
def after? (c : Char) : List Char → Option (List Char)
  | d :: cs => if d = c then some cs else none
  | [] => none

/-- Every fourth year is a leap year, but of the full centuries only every fourth. -/
def isLeapYear (year : Nat) : Bool := year % 4 = 0 && (year % 100 ≠ 0 || year % 400 = 0)

/-- The number of days of a month. -/
def daysIn (year month : Nat) : Nat :=
  if month = 2 then if isLeapYear year then 29 else 28
  else if month ∈ [4, 6, 9, 11] then 30
  else 31

/-- What follows a date. -/
def afterDate? (cs : List Char) : Option (List Char) := do
  let (year, cs) ← fixed? 4 cs
  let (month, cs) ← fixed? 2 (← after? '-' cs)
  let (day, cs) ← fixed? 2 (← after? '-' cs)
  if 1 ≤ month ∧ month ≤ 12 ∧ 1 ≤ day ∧ day ≤ daysIn year month then some cs else none

/-- What follows hours and minutes. -/
def afterMinutes? (cs : List Char) : Option (List Char) := do
  let (hour, cs) ← fixed? 2 cs
  let (minute, cs) ← fixed? 2 (← after? ':' cs)
  if hour ≤ 23 ∧ minute ≤ 59 then some cs else none

/-- What follows seconds and their fraction, either of which may be missing. -/
def afterSeconds? (cs : List Char) : Option (List Char) := do
  match cs with
  | ':' :: cs =>
    let (second, cs) ← fixed? 2 cs
    if 60 < second then none
    match cs with
    | '.' :: cs =>
      if (cs.takeWhile isDecimal).isEmpty then none
      return cs.dropWhile isDecimal
    | cs => return cs
  | cs => return cs

/-- What follows a time of day. -/
def afterTime? (cs : List Char) : Option (List Char) := do afterSeconds? (← afterMinutes? cs)

/-- Whether a text is nothing or a distance from universal time. -/
def isOffset : List Char → Bool
  | [] => true
  | ['Z'] | ['z'] => true
  | '+' :: cs | '-' :: cs => afterMinutes? cs == some []
  | _ => false

/-- Whether a text is a date, a time, or a date and a time with or without its distance from
universal time. -/
def isDatetime (cs : List Char) : Bool :=
  match afterDate? cs with
  | some [] => true
  | some (d :: time) =>
    (d = 'T' || d = 't' || d = ' ') && (match afterTime? time with
      | some offset => isOffset offset
      | none => false)
  | none => afterTime? cs == some []

/-! ### Scalars -/

/-- Reads a run whose number, behind a sign or not, begins at an offset with a digit or an
underscore: a date or a time, a fraction or an integer. -/
def readNumber (run : List Char) (offset : Nat) : Except Nat Value :=
  let number := run.drop offset
  let rest := number.dropWhile isDecimal
  let needlessZero := number.head? = some '0'
  if rest.head? = some '-' ∨ rest.head? = some ':' then
    if isDatetime run then .ok .datetime else .error 0
  else if ' ' ∈ rest then .error 0
  else if rest.any fun c => c = '.' || isExponentMark c then do
    checkFraction offset number
    return fractionOf (← dropUnderscores isDecimal 0 run)
  else if rest.isEmpty ∨ rest.head? = some '_' then
    if needlessZero then .error offset else readDecimal run
  else .error 0

/-- Reads a run whose number begins at an offset with a zero. -/
def readZero (run : List Char) (offset : Nat) : Except Nat Value :=
  match run.drop (offset + 1) with
  | [] => .ok (.integer 0)
  | c :: digits =>
    match bases.lookup c, c with
    | some (base, isDigit), _ =>
      if 0 < offset then .error 0 else readBased base isDigit digits
    | none, 'X' | none, 'O' | none, 'B' | none, 'D' | none, 'd' => .error 0
    | none, _ => readNumber run offset

/-- Reads a run by its first character, given its sign and the offset behind the sign. -/
def readUnsigned (run : List Char) (negative : Bool) (offset : Nat) : Except Nat Value :=
  match run.drop offset with
  | [] => .error 0
  | c :: cs =>
    let text := String.ofList (c :: cs)
    if c = '0' then readZero run offset
    else if isDecimal c || c = '_' then readNumber run offset
    else if c = 'i' ∨ c = 'I' then
      if text = "inf" then .ok (.float (.infinite negative)) else .error offset
    else if c = 'n' ∨ c = 'N' then
      if text = "nan" then .ok (.float .notANumber) else .error offset
    else if offset = 0 ∧ text = "true" then .ok (.boolean true)
    else if offset = 0 ∧ text = "false" then .ok (.boolean false)
    else if 0 < offset ∧ (c = '+' ∨ c = '-') then .error offset
    else .error 0

/-- **The value of an unquoted run.** -/
def readScalar (run : List Char) : Except Nat Value :=
  match run with
  | '-' :: _ => readUnsigned run true 1
  | '+' :: _ => readUnsigned run false 1
  | _ => readUnsigned run false 0

end TagNesting.Toml
