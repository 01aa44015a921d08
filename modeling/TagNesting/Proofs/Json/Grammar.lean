import Mathlib.Algebra.Field.Rat

/-!
# The grammar of JSON

What a JSON text is and which value it denotes, as the standard has it: literals, decimal numbers
with sign, fraction and exponent, strings with all escapes, arrays and objects, and blanks around
every value and every mark of punctuation.  Nothing here is about the texts that this library
writes.

A number denotes an exact rational.  A string denotes characters; half of a surrogate pair denotes
none, so a string with such an escape outside a pair denotes nothing.  An object denotes its members
in order, with repeated keys if there are any.
-/

namespace TagNesting.Json

/-- **A JSON value.** -/
inductive Value where
  | null
  | bool (b : Bool)
  | number (q : ℚ)
  | string (s : String)
  | array (items : List Value)
  | object (members : List (String × Value))

/-! ### Blanks -/

def isBlank (c : Char) : Bool := c = ' ' || c = '\t' || c = '\n' || c = '\r'

/-- The text consists of blanks. -/
def Blank (text : List Char) : Prop := ∀ c ∈ text, isBlank c = true

/-! ### Numbers -/

/-- At least one digit, and nothing else. -/
def Digits (ds : List Char) : Prop := ds ≠ [] ∧ ∀ c ∈ ds, c.isDigit = true

/-- The exponent of a number. -/
structure Exponent where
  mark : Char
  sign : List Char
  digits : List Char
  mark_eq : mark = 'e' ∨ mark = 'E'
  sign_eq : sign = [] ∨ sign = ['+'] ∨ sign = ['-']
  isDigits : Digits digits

namespace Exponent

def text (e : Exponent) : List Char := e.mark :: (e.sign ++ e.digits)

/-- The number that the sign and the digits of an exponent stand for. -/
def valueOf (sign digits : List Char) : ℤ :=
  if sign = ['-'] then -(Nat.ofDigitChars 10 digits 0 : ℤ) else Nat.ofDigitChars 10 digits 0

def value (e : Exponent) : ℤ := valueOf e.sign e.digits

end Exponent

/-- A number as it is written. -/
structure Numeral where
  negative : Bool
  /-- The digits before the point. -/
  whole : List Char
  /-- The digits after the point; there is no point if there are none. -/
  fraction : List Char
  exponent : Option Exponent
  isDigits : Digits whole
  /-- A number has no needless zero in front. -/
  no_leading_zero : whole.head? = some '0' → whole = ['0']
  fraction_digits : ∀ c ∈ fraction, c.isDigit = true

namespace Numeral

def signText (negative : Bool) : List Char := if negative then ['-'] else []

def fractionText (fraction : List Char) : List Char :=
  if fraction = [] then [] else '.' :: fraction

def exponentText : Option Exponent → List Char
  | none => []
  | some e => e.text

def text (n : Numeral) : List Char :=
  signText n.negative ++ (n.whole ++ (fractionText n.fraction ++ exponentText n.exponent))

/-- The number that a sign, digits before and after the point and an exponent stand for. -/
def valueOf (negative : Bool) (whole fraction : List Char) (exponent : ℤ) : ℚ :=
  (if negative then -1 else 1) * (Nat.ofDigitChars 10 (whole ++ fraction) 0 : ℚ) *
    10 ^ (exponent - fraction.length)

def value (n : Numeral) : ℚ :=
  valueOf n.negative n.whole n.fraction (n.exponent.elim 0 Exponent.value)

end Numeral

/-! ### Strings -/

/-- The escapes of one letter, and the characters they stand for. -/
def shortEscapes : List (Char × Char) :=
  [('"', '"'), ('\\', '\\'), ('/', '/'), ('b', '\x08'), ('f', '\x0c'), ('n', '\n'), ('r', '\r'),
   ('t', '\t')]

/-- The value of a hexadecimal digit in either case. -/
def hexValue? (c : Char) : Option Nat :=
  if '0' ≤ c ∧ c ≤ '9' then some (c.toNat - '0'.toNat)
  else if 'a' ≤ c ∧ c ≤ 'f' then some (c.toNat - 'a'.toNat + 10)
  else if 'A' ≤ c ∧ c ≤ 'F' then some (c.toNat - 'A'.toNat + 10)
  else none

/-- The number that four hexadecimal digits stand for. -/
def quadValue? (a b c d : Char) : Option Nat := do
  let a ← hexValue? a
  let b ← hexValue? b
  let c ← hexValue? c
  let d ← hexValue? d
  return ((a * 16 + b) * 16 + c) * 16 + d

/-- The code point of a surrogate pair. -/
def pairValue (high low : Nat) : Nat := 0x10000 + (high - 0xD800) * 0x400 + (low - 0xDC00)

/-- **A character inside a string**: itself, or one of its escapes. -/
inductive Piece : List Char → Char → Prop
  | plain {c : Char} : 0x20 ≤ c.toNat → c ≠ '"' → c ≠ '\\' → Piece [c] c
  | short {mark c : Char} : (mark, c) ∈ shortEscapes → Piece ['\\', mark] c
  | unit {a b c d x : Char} : quadValue? a b c d = some x.toNat → Piece ['\\', 'u', a, b, c, d] x
  | pair {a b c d a' b' c' d' x : Char} {high low : Nat} :
      quadValue? a b c d = some high → 0xD800 ≤ high → high < 0xDC00 →
      quadValue? a' b' c' d' = some low → 0xDC00 ≤ low → low < 0xE000 →
      x.toNat = pairValue high low →
      Piece ['\\', 'u', a, b, c, d, '\\', 'u', a', b', c', d'] x

/-- The characters inside a string. -/
inductive Chars : List Char → List Char → Prop
  | nil : Chars [] []
  | cons {piece text : List Char} {c : Char} {cs : List Char} :
      Piece piece c → Chars text cs → Chars (piece ++ text) (c :: cs)

/-- **The text is a string between quotation marks.** -/
def Quoted (text : List Char) (s : String) : Prop :=
  ∃ body, Chars body s.toList ∧ text = '"' :: (body ++ ['"'])

/-! ### Values -/

/-- A value with the blanks around it. -/
structure Item where
  before : List Char
  body : List Char
  after : List Char
  value : Value
  blank_before : Blank before
  blank_after : Blank after

def Item.text (i : Item) : List Char := i.before ++ (i.body ++ i.after)

/-- A member of an object: a key, a colon and a value, with the blanks around them. -/
structure Member where
  before : List Char
  label : List Char
  key : String
  beforeColon : List Char
  item : Item
  blank_before : Blank before
  quoted : Quoted label key
  blank_beforeColon : Blank beforeColon

namespace Member

def text (m : Member) : List Char :=
  m.before ++ (m.label ++ (m.beforeColon ++ ':' :: m.item.text))

def entry (m : Member) : String × Value := (m.key, m.item.value)

end Member

/-- Texts with commas between them. -/
def joined : List (List Char) → List Char
  | [] => []
  | [t] => t
  | t :: u :: ts => t ++ ',' :: joined (u :: ts)

/-- **The text denotes the value.** -/
inductive Denotes : List Char → Value → Prop
  | null : Denotes "null".toList .null
  | isFalse : Denotes "false".toList (.bool false)
  | isTrue : Denotes "true".toList (.bool true)
  | number (n : Numeral) : Denotes n.text (.number n.value)
  | string {text : List Char} {s : String} : Quoted text s → Denotes text (.string s)
  | emptyArray {w : List Char} : Blank w → Denotes ('[' :: (w ++ [']'])) (.array [])
  | array {items : List Item} : items ≠ [] → (∀ i ∈ items, Denotes i.body i.value) →
      Denotes ('[' :: (joined (items.map Item.text) ++ [']'])) (.array (items.map Item.value))
  | emptyObject {w : List Char} :
      Blank w → Denotes ('\x7b' :: (w ++ ['\x7d'])) (.object [])
  | object {members : List Member} : members ≠ [] →
      (∀ m ∈ members, Denotes m.item.body m.item.value) →
      Denotes ('\x7b' :: (joined (members.map Member.text) ++ ['\x7d']))
        (.object (members.map Member.entry))

/-- **The text is a JSON text** with that value: blanks may stand around it. -/
def IsText (text : List Char) (v : Value) : Prop :=
  ∃ i : Item, Denotes i.body i.value ∧ i.text = text ∧ i.value = v

end TagNesting.Json
