/-!
# What a terminal shows of a text

A terminal takes some characters for commands: control characters, and sequences that an escape
character begins.  A message may hold them, since it repeats what the user has written, and what is
shown of it must not command anything.  `shown` leaves them out.

The reading keeps where in a sequence it stands (`Mode`).  Tab, line feed, form feed and carriage
return are shown; they also break off a sequence, unless it is a string or a title, which holds any
character.  What is shown holds no other control character (`shows_of_mem_shownFrom`), and a text
without any is shown as it is (`shownFrom_of_shows`).
-/

namespace TagNesting.Text.Terminal

/-- Where in a sequence a text stands. -/
inductive Mode where
  /-- In no sequence. -/
  | plain
  /-- After the escape character. -/
  | escape
  /-- In an escape sequence of more than one character. -/
  | longEscape
  /-- In a control sequence, which a letter or a like sign ends. -/
  | control
  /-- In a string, which an escape character ends. -/
  | string
  /-- In a title, which a bell or an escape character ends. -/
  | title
  deriving DecidableEq, Repr

/-- A control character that moves to another place and is shown as such. -/
def isLayout (c : Char) : Bool := c ∈ ['\t', '\n', '\x0c', '\r']

/-- A printable character of the first 128. -/
def isPrintable (c : Char) : Bool := ' ' ≤ c && c ≤ '~'

/-- A byte that ends a string where it stands for itself. -/
def stringEnd : UInt8 := 0x9C

namespace Mode

/-- The mode after a printable character. -/
def afterPrintable (m : Mode) (c : Char) : Mode :=
  match m with
  | .escape =>
    if c ≤ '/' then .longEscape
    else if c = '[' then .control
    else if c = ']' then .title
    else if c ∈ ['P', 'X', '^', '_'] then .string
    else .plain
  | .longEscape => if c ≤ '/' then .longEscape else .plain
  | .control => if c ≤ '?' then .control else .plain
  | m => m

/-- The mode after a character. -/
def after (m : Mode) (c : Char) : Mode :=
  if c = '\x1b' then .escape
  else if c = '\x18' ∨ c = '\x1a' then .plain
  else if isPrintable c then m.afterPrintable c
  else
    match m with
    | .title => if c = '\x07' then .plain else .title
    | .string => if stringEnd ∈ (String.ofList [c]).toUTF8.toList then .plain else .string
    | m => if isLayout c then .plain else m

/-- Whether a character that is met in this mode is shown. -/
def shows (m : Mode) (c : Char) : Bool :=
  match m with
  | .plain => isPrintable c || isLayout c || 0x80 ≤ c.toNat
  | .escape | .longEscape | .control => isLayout c
  | .string | .title => false

end Mode

/-- What is shown of a text that begins in this mode. -/
def shownFrom : Mode → List Char → List Char
  | _, [] => []
  | m, c :: cs =>
    if m.shows c then c :: shownFrom (m.after c) cs else shownFrom (m.after c) cs

/-- **What is shown of a text.** -/
def shown (text : String) : String := String.ofList (shownFrom .plain text.toList)

/-! ### What is shown commands nothing -/

theorem Mode.shows_plain_of_shows {m : Mode} {c : Char} (h : m.shows c = true) :
    Mode.plain.shows c = true := by
  cases m with
  | plain => exact h
  | escape | longEscape | control =>
    have hc : isLayout c = true := h
    simp [Mode.shows, hc]
  | string | title => simp [Mode.shows] at h

theorem shows_of_mem_shownFrom {c : Char} (cs : List Char) : ∀ m : Mode,
    c ∈ shownFrom m cs → Mode.plain.shows c = true := by
  induction cs with
  | nil => intro m h; simp [shownFrom] at h
  | cons d cs ih =>
    intro m h
    unfold shownFrom at h
    split at h
    · next hd =>
      rcases List.mem_cons.mp h with rfl | h
      · exact Mode.shows_plain_of_shows hd
      · exact ih _ h
    · exact ih _ h

theorem Mode.after_plain_of_shows {c : Char} (h : Mode.plain.shows c = true) :
    Mode.plain.after c = .plain := by
  unfold Mode.after
  have h1 : c ≠ '\x1b' := by rintro rfl; exact absurd h (by decide)
  rw [if_neg h1]
  split
  · rfl
  · split
    · rfl
    · simp

theorem shownFrom_of_shows (cs : List Char) (h : ∀ c ∈ cs, Mode.plain.shows c = true) :
    shownFrom .plain cs = cs := by
  induction cs with
  | nil => rfl
  | cons c cs ih =>
    have hc := h c List.mem_cons_self
    unfold shownFrom
    rw [if_pos hc, Mode.after_plain_of_shows hc, ih fun d hd => h d (List.mem_cons_of_mem c hd)]

end TagNesting.Text.Terminal
