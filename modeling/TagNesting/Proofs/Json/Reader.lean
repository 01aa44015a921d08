import Mathlib.Data.List.Basic
import TagNesting.Proofs.Json.Grammar

/-!
# Reading JSON

A reader takes a value from the front of a text and returns the rest of it.  Whatever the grammar
derives is read as the value that it denotes (`readValue_append`, `parse?_of_isText`), so a text
denotes at most one value (`IsText.unique`).

Each part of the grammar has its reader and its lemma: the reader takes just that part from the
front of a text, provided that what follows cannot belong to it (`Stops`).
-/

namespace TagNesting.Json

/-! ### What may follow -/

/-- The text does not begin with a character of the class. -/
def Stops (p : Char → Bool) (text : List Char) : Prop := ∀ c ∈ text.head?, p c = false

theorem stops_nil (p : Char → Bool) : Stops p [] := by simp [Stops]

theorem stops_cons {p : Char → Bool} {c : Char} {text : List Char} :
    Stops p (c :: text) ↔ p c = false := by
  simp [Stops]

theorem takeWhile_of_stops {p : Char → Bool} {run rest : List Char} (hrun : ∀ c ∈ run, p c = true)
    (hrest : Stops p rest) : (run ++ rest).takeWhile p = run := by
  rw [List.takeWhile_append_of_pos hrun]
  rcases rest with _ | ⟨c, rest⟩
  · simp
  · rw [stops_cons] at hrest
    simp [hrest]

theorem dropWhile_of_stops {p : Char → Bool} {run rest : List Char} (hrun : ∀ c ∈ run, p c = true)
    (hrest : Stops p rest) : (run ++ rest).dropWhile p = rest := by
  rw [List.dropWhile_append_of_pos hrun]
  rcases rest with _ | ⟨c, rest⟩
  · rfl
  · rw [stops_cons] at hrest
    simp [hrest]

/-- The characters by which a number could go on. -/
def continuesNumber (c : Char) : Bool := c.isDigit || c = '.' || c = 'e' || c = 'E'

theorem Stops.imp {p q : Char → Bool} {text : List Char} (h : Stops p text)
    (hpq : ∀ c, p c = false → q c = false) : Stops q text :=
  fun c hc => hpq c (h c hc)

theorem Stops.append_of_run {p q : Char → Bool} {run rest : List Char}
    (hrun : ∀ c ∈ run, p c = true) (hpq : ∀ c, p c = true → q c = false) (hrest : Stops q rest) :
    Stops q (run ++ rest) := by
  rcases run with _ | ⟨c, run⟩
  · exact hrest
  · rw [List.cons_append, stops_cons]
    exact hpq c (hrun c (by simp))

theorem Stops.not_digit {text : List Char} (h : Stops continuesNumber text) :
    Stops Char.isDigit text := by
  refine h.imp fun c hc => ?_
  simp only [continuesNumber, Bool.or_eq_false_iff] at hc
  exact hc.1.1.1

theorem Stops.not_point {text : List Char} (h : Stops continuesNumber text) :
    Stops (· = '.') text := by
  refine h.imp fun c hc => ?_
  simp only [continuesNumber, Bool.or_eq_false_iff] at hc
  exact hc.1.1.2

/-! ### Blanks -/

def skipBlanks (text : List Char) : List Char := text.dropWhile isBlank

theorem skipBlanks_append {w rest : List Char} (hw : Blank w) (hrest : Stops isBlank rest) :
    skipBlanks (w ++ rest) = rest :=
  dropWhile_of_stops hw hrest

theorem continuesNumber_of_isBlank {c : Char} (h : isBlank c = true) :
    continuesNumber c = false := by
  simp only [isBlank, Bool.or_eq_true, decide_eq_true_eq] at h
  rcases h with ((rfl | rfl) | rfl) | rfl <;> decide

/-! ### Numbers -/

def readSign : List Char → Bool × List Char
  | '-' :: cs => (true, cs)
  | cs => (false, cs)

/-- Reads a point and the digits after it, if there is a point. -/
def readFraction : List Char → Option (List Char × List Char)
  | '.' :: cs =>
    let digits := cs.takeWhile Char.isDigit
    if digits = [] then none else some (digits, cs.dropWhile Char.isDigit)
  | cs => some ([], cs)

def readExponentSign : List Char → List Char × List Char
  | '+' :: cs => (['+'], cs)
  | '-' :: cs => (['-'], cs)
  | cs => ([], cs)

/-- Reads an exponent, which is zero if there is none. -/
def readExponent : List Char → Option (ℤ × List Char)
  | [] => some (0, [])
  | c :: cs =>
    if c = 'e' ∨ c = 'E' then
      let (sign, cs) := readExponentSign cs
      let digits := cs.takeWhile Char.isDigit
      if digits = [] then none
      else some (Exponent.valueOf sign digits, cs.dropWhile Char.isDigit)
    else some (0, c :: cs)

def readNumber (text : List Char) : Option (ℚ × List Char) :=
  let (negative, cs) := readSign text
  let whole := cs.takeWhile Char.isDigit
  if whole = [] ∨ (whole.head? = some '0' ∧ whole ≠ ['0']) then none
  else do
    let (fraction, cs) ← readFraction (cs.dropWhile Char.isDigit)
    let (exponent, cs) ← readExponent cs
    return (Numeral.valueOf negative whole fraction exponent, cs)

theorem Digits.stops_of_not_digit {p : Char → Bool} {ds : List Char} (h : Digits ds)
    (hp : ∀ c, c.isDigit = true → p c = false) (rest : List Char) : Stops p (ds ++ rest) := by
  obtain ⟨c, ds, rfl⟩ := List.exists_cons_of_ne_nil h.1
  rw [List.cons_append, stops_cons]
  exact hp c (h.2 c (by simp))

theorem readSign_append (negative : Bool) {rest : List Char} (h : Stops (· = '-') rest) :
    readSign (Numeral.signText negative ++ rest) = (negative, rest) := by
  rcases negative with _ | _
  · rcases rest with _ | ⟨c, rest⟩
    · rfl
    · rw [stops_cons, decide_eq_false_iff_not] at h
      unfold Numeral.signText readSign
      split
      · next heq => exact absurd (List.cons.inj heq).1 h
      · rfl
  · rfl

theorem readFraction_append {fraction rest : List Char} (hf : ∀ c ∈ fraction, c.isDigit = true)
    (hdigit : Stops Char.isDigit rest) (hpoint : Stops (· = '.') rest) :
    readFraction (Numeral.fractionText fraction ++ rest) = some (fraction, rest) := by
  by_cases he : fraction = []
  · subst he
    rcases rest with _ | ⟨c, rest⟩
    · rfl
    · rw [stops_cons, decide_eq_false_iff_not] at hpoint
      unfold Numeral.fractionText readFraction
      split
      · next heq => exact absurd (List.cons.inj heq).1 hpoint
      · rfl
  · rw [Numeral.fractionText, if_neg he, List.cons_append, readFraction,
      takeWhile_of_stops hf hdigit, dropWhile_of_stops hf hdigit, if_neg he]

theorem readExponentSign_append {sign rest : List Char}
    (hsign : sign = [] ∨ sign = ['+'] ∨ sign = ['-'])
    (hrest : Stops (fun c => c = '+' || c = '-') rest) :
    readExponentSign (sign ++ rest) = (sign, rest) := by
  rcases hsign with rfl | rfl | rfl
  · rcases rest with _ | ⟨c, rest⟩
    · rfl
    · rw [stops_cons, Bool.or_eq_false_iff, decide_eq_false_iff_not,
        decide_eq_false_iff_not] at hrest
      rw [List.nil_append]
      unfold readExponentSign
      split
      · next heq => exact absurd (List.cons.inj heq).1 hrest.1
      · next heq => exact absurd (List.cons.inj heq).1 hrest.2
      · rfl
  · rfl
  · rfl

theorem readExponent_append (exponent : Option Exponent) {rest : List Char}
    (hrest : Stops continuesNumber rest) :
    readExponent (Numeral.exponentText exponent ++ rest) =
      some (exponent.elim 0 Exponent.value, rest) := by
  rcases exponent with _ | e
  · rcases rest with _ | ⟨c, rest⟩
    · rfl
    · have hc : ¬ (c = 'e' ∨ c = 'E') := by
        rw [stops_cons] at hrest
        rintro (rfl | rfl)
        · exact absurd hrest (by decide)
        · exact absurd hrest (by decide)
      rw [Numeral.exponentText, List.nil_append, readExponent, if_neg hc]
      rfl
  · have hdigit := hrest.not_digit
    have hsign : Stops (fun c => c = '+' || c = '-') (e.digits ++ rest) := by
      refine e.isDigits.stops_of_not_digit (fun c hc => ?_) rest
      rw [Bool.or_eq_false_iff, decide_eq_false_iff_not, decide_eq_false_iff_not]
      exact ⟨by rintro rfl; exact absurd hc (by decide), by rintro rfl; exact absurd hc (by decide)⟩
    rw [Numeral.exponentText, Exponent.text, List.cons_append, List.append_assoc, readExponent,
      if_pos e.mark_eq, readExponentSign_append e.sign_eq hsign]
    dsimp only
    rw [takeWhile_of_stops e.isDigits.2 hdigit, dropWhile_of_stops e.isDigits.2 hdigit,
      if_neg e.isDigits.1]
    rfl

theorem stops_exponentText {p : Char → Bool} (exponent : Option Exponent) {rest : List Char}
    (he : p 'e' = false) (hE : p 'E' = false) (hrest : Stops p rest) :
    Stops p (Numeral.exponentText exponent ++ rest) := by
  rcases exponent with _ | e
  · exact hrest
  · rw [Numeral.exponentText, Exponent.text, List.cons_append, stops_cons]
    rcases e.mark_eq with h | h
    · rw [h, he]
    · rw [h, hE]

theorem stops_fractionText (fraction : List Char) {rest : List Char}
    (hrest : Stops Char.isDigit rest) :
    Stops Char.isDigit (Numeral.fractionText fraction ++ rest) := by
  unfold Numeral.fractionText
  split
  · exact hrest
  · rw [List.cons_append, stops_cons]
    decide

/-- **A number is read as the rational that it denotes.** -/
theorem readNumber_append (n : Numeral) {rest : List Char} (hrest : Stops continuesNumber rest) :
    readNumber (n.text ++ rest) = some (n.value, rest) := by
  have hexp : Stops Char.isDigit (Numeral.exponentText n.exponent ++ rest) :=
    stops_exponentText n.exponent (by decide) (by decide) hrest.not_digit
  have hpoint : Stops (· = '.') (Numeral.exponentText n.exponent ++ rest) :=
    stops_exponentText n.exponent (by decide) (by decide) hrest.not_point
  have hfrac := stops_fractionText n.fraction hexp
  have hsign : Stops (· = '-') (n.whole ++ (Numeral.fractionText n.fraction ++
      (Numeral.exponentText n.exponent ++ rest))) := by
    refine n.isDigits.stops_of_not_digit (fun c hc => ?_) _
    rw [decide_eq_false_iff_not]
    rintro rfl
    exact absurd hc (by decide)
  have hwhole : ¬ (n.whole = [] ∨ (n.whole.head? = some '0' ∧ n.whole ≠ ['0'])) := by
    rintro (h | ⟨h, hne⟩)
    · exact n.isDigits.1 h
    · exact hne (n.no_leading_zero h)
  unfold readNumber Numeral.text
  rw [List.append_assoc, List.append_assoc, List.append_assoc, readSign_append n.negative hsign]
  dsimp only
  rw [takeWhile_of_stops n.isDigits.2 hfrac, dropWhile_of_stops n.isDigits.2 hfrac, if_neg hwhole,
    readFraction_append n.fraction_digits hexp hpoint]
  dsimp only [Option.bind_eq_bind, Option.bind_some]
  rw [readExponent_append n.exponent hrest]
  rfl

/-! ### Strings -/

/-- Reads the second half of a surrogate pair. -/
def readLow (high : Nat) : List Char → Option (Char × List Char)
  | '\\' :: 'u' :: a :: b :: c :: d :: cs => do
    let low ← quadValue? a b c d
    if 0xDC00 ≤ low ∧ low < 0xE000 then some (Char.ofNat (pairValue high low), cs) else none
  | _ => none

/-- Reads one character of a string. -/
def readPiece : List Char → Option (Char × List Char)
  | '\\' :: 'u' :: a :: b :: c :: d :: cs => do
    let n ← quadValue? a b c d
    if 0xD800 ≤ n ∧ n < 0xDC00 then readLow n cs
    else if n.isValidChar then some (Char.ofNat n, cs)
    else none
  | '\\' :: mark :: cs => (shortEscapes.lookup mark).map fun c => (c, cs)
  | c :: cs => if 0x20 ≤ c.toNat ∧ c ≠ '"' ∧ c ≠ '\\' then some (c, cs) else none
  | [] => none

/-- Reads characters up to the quotation mark that ends the string. -/
def readChars : Nat → List Char → Option (List Char × List Char)
  | 0, _ => none
  | fuel + 1, text =>
    if text.head? = some '"' then some ([], text.tail)
    else do
      let (c, rest) ← readPiece text
      let (cs, rest) ← readChars fuel rest
      return (c :: cs, rest)

def readString : List Char → Option (String × List Char)
  | '"' :: cs => (readChars cs.length cs).map fun (s, rest) => (String.ofList s, rest)
  | _ => none

theorem Piece.exists_cons {piece : List Char} {c : Char} (h : Piece piece c) :
    ∃ d ds, piece = d :: ds ∧ d ≠ '"' := by
  cases h with
  | plain _ hquote _ => exact ⟨_, _, rfl, hquote⟩
  | short _ => exact ⟨_, _, rfl, by decide⟩
  | unit _ => exact ⟨_, _, rfl, by decide⟩
  | pair _ _ _ _ _ _ _ => exact ⟨_, _, rfl, by decide⟩

theorem readPiece_append {piece : List Char} {c : Char} (h : Piece piece c) (rest : List Char) :
    readPiece (piece ++ rest) = some (c, rest) := by
  cases h with
  | plain hlow hquote hslash =>
    rw [List.singleton_append]
    unfold readPiece
    split
    · next heq => exact absurd (List.cons.inj heq).1 hslash
    · next heq => exact absurd (List.cons.inj heq).1 hslash
    · next heq =>
      obtain ⟨rfl, rfl⟩ := List.cons.inj heq
      rw [if_pos ⟨hlow, hquote, hslash⟩]
    · next heq => exact absurd heq (List.cons_ne_nil _ _)
  | short hmem =>
    simp only [shortEscapes, List.mem_cons, Prod.mk.injEq, List.not_mem_nil, or_false] at hmem
    rcases hmem with ⟨rfl, rfl⟩ | ⟨rfl, rfl⟩ | ⟨rfl, rfl⟩ | ⟨rfl, rfl⟩ | ⟨rfl, rfl⟩ | ⟨rfl, rfl⟩ |
      ⟨rfl, rfl⟩ | ⟨rfl, rfl⟩ <;> rfl
  | unit hquad =>
    have hvalid : c.toNat.isValidChar := c.valid
    have hsingle : ¬ (0xD800 ≤ c.toNat ∧ c.toNat < 0xDC00) := by
      rcases hvalid with h | h <;> omega
    simp only [List.cons_append, List.nil_append, readPiece, hquad, Option.bind_eq_bind,
      Option.bind_some, if_neg hsingle, if_pos hvalid, Char.ofNat_toNat]
  | @pair a b c' d a' b' c'' d' _ high low hquad hhigh hhigh' hquad' hlow hlow' hvalue =>
    simp only [List.cons_append, List.nil_append, readPiece, hquad, Option.bind_eq_bind,
      Option.bind_some, if_pos (And.intro hhigh hhigh'), readLow, hquad',
      if_pos (And.intro hlow hlow'), ← hvalue, Char.ofNat_toNat]

theorem readChars_append {body cs : List Char} (h : Chars body cs) {fuel : Nat}
    (hf : body.length < fuel) (rest : List Char) :
    readChars fuel (body ++ '"' :: rest) = some (cs, rest) := by
  induction h generalizing fuel with
  | nil =>
    obtain ⟨fuel, rfl⟩ : ∃ k, fuel = k + 1 := ⟨fuel - 1, by simp at hf; omega⟩
    rfl
  | @cons piece text c cs hpiece _ ih =>
    obtain ⟨d, ds, hcons, hd⟩ := hpiece.exists_cons
    have hlen : piece.length = ds.length + 1 := by rw [hcons, List.length_cons]
    rw [List.length_append] at hf
    obtain ⟨fuel, rfl⟩ : ∃ k, fuel = k + 1 := ⟨fuel - 1, by omega⟩
    have hhead : ((piece ++ text) ++ '"' :: rest).head? ≠ some '"' := by
      rw [hcons]
      simpa using hd
    rw [readChars, if_neg hhead, List.append_assoc, readPiece_append hpiece]
    dsimp only [Option.bind_eq_bind, Option.bind_some]
    rw [ih (by omega)]
    rfl

theorem readString_append {text : List Char} {s : String} (h : Quoted text s) (rest : List Char) :
    readString (text ++ rest) = some (s, rest) := by
  obtain ⟨body, hbody, rfl⟩ := h
  have hlen : body.length < (body ++ '"' :: rest).length := by
    simp
  rw [List.cons_append, List.append_assoc, List.singleton_append, readString,
    readChars_append hbody hlen, Option.map_some]
  dsimp only
  rw [String.ofList_toList]

/-! ### Lists of values -/

/-- Reads values with commas between them, up to the closing bracket. -/
def readSequence {α : Type} (close : Char) (read : List Char → Option (α × List Char)) :
    Nat → List Char → Option (List α × List Char)
  | 0, _ => none
  | fuel + 1, text => do
    let (a, rest) ← read text
    match rest with
    | [] => none
    | c :: rest =>
      if c = close then some ([a], rest)
      else if c = ',' then do
        let (as, rest) ← readSequence close read fuel rest
        return (a :: as, rest)
      else none

/-- Reads what stands between brackets: blanks, or values with commas between them. -/
def readEnclosed {α : Type} (close : Char) (read : List Char → Option (α × List Char))
    (text : List Char) : Option (List α × List Char) :=
  if (skipBlanks text).head? = some close then some ([], (skipBlanks text).tail)
  else readSequence close read text.length text

/-- Reads a value and the blanks around it. -/
def readPadded (read : List Char → Option (Value × List Char)) (text : List Char) :
    Option (Value × List Char) := do
  let (v, rest) ← read (skipBlanks text)
  return (v, skipBlanks rest)

/-- Reads a member of an object and the blanks around it. -/
def readMember (read : List Char → Option (Value × List Char)) (text : List Char) :
    Option ((String × Value) × List Char) := do
  let (key, rest) ← readString (skipBlanks text)
  if (skipBlanks rest).head? = some ':' then do
    let (v, rest) ← readPadded read (skipBlanks rest).tail
    return ((key, v), rest)
  else none

theorem exists_joined_cons (t : List Char) (ts : List (List Char)) :
    ∃ more, joined (t :: ts) = t ++ more := by
  rcases ts with _ | ⟨u, ts⟩
  · exact ⟨[], by rw [joined, List.append_nil]⟩
  · exact ⟨_, rfl⟩

theorem length_le_joined (ts : List (List Char)) : ts.length ≤ (joined ts).length + 1 := by
  fun_induction joined ts with
  | case1 => simp
  | case2 t => simp
  | case3 t u ts ih =>
    simp only [List.length_cons, List.length_append] at ih ⊢
    omega

theorem length_le_of_mem_joined {t : List Char} {ts : List (List Char)} (h : t ∈ ts) :
    t.length ≤ (joined ts).length := by
  fun_induction joined ts with
  | case1 => simp at h
  | case2 u =>
    rw [List.mem_singleton.mp h]
  | case3 u u' ts ih =>
    rw [List.length_append, List.length_cons]
    rcases List.mem_cons.mp h with rfl | h
    · omega
    · have := ih h
      omega

/-- **Values with commas between them are read** if each of them is, up to the comma or the bracket
after it. -/
theorem readSequence_append {α β : Type} {close : Char}
    {read : List Char → Option (α × List Char)} {text : β → List Char} {value : β → α}
    {xs : List β} (hne : xs ≠ []) (hclose : close ≠ ',')
    (hread : ∀ x ∈ xs, ∀ c rest, c = ',' ∨ c = close →
      read (text x ++ c :: rest) = some (value x, c :: rest))
    {fuel : Nat} (hf : xs.length ≤ fuel) (rest : List Char) :
    readSequence close read fuel (joined (xs.map text) ++ close :: rest) =
      some (xs.map value, rest) := by
  induction xs generalizing fuel with
  | nil => exact absurd rfl hne
  | cons x xs ih =>
    rw [List.length_cons] at hf
    obtain ⟨fuel, rfl⟩ : ∃ k, fuel = k + 1 := ⟨fuel - 1, by omega⟩
    rcases xs with _ | ⟨y, ys⟩
    · have hx := hread x (by simp) close rest (Or.inr rfl)
      rw [List.map_singleton, joined, readSequence, hx]
      simp
    · have hx := hread x (by simp) ',' (joined ((y :: ys).map text) ++ close :: rest) (Or.inl rfl)
      have hys := ih (List.cons_ne_nil y ys) (fun z hz => hread z (List.mem_cons_of_mem x hz))
        (show (y :: ys).length ≤ fuel by omega)
      have hjoined : joined ((x :: y :: ys).map text) ++ close :: rest =
          text x ++ ',' :: (joined ((y :: ys).map text) ++ close :: rest) := by
        rw [List.map_cons, List.map_cons, joined, List.append_assoc, List.cons_append]
      rw [hjoined, readSequence, hx]
      dsimp only [Option.bind_eq_bind, Option.bind_some]
      rw [if_neg (Ne.symm hclose), if_pos rfl, hys]
      rfl

/-! ### Values -/

def readLiteral (word : String) (v : Value) (text : List Char) : Option (Value × List Char) :=
  if word.toList.isPrefixOf text then some (v, text.drop word.toList.length) else none

/-- **Reads a value** that nests at most so deep. -/
def readValue : Nat → List Char → Option (Value × List Char)
  | 0, _ => none
  | _, [] => none
  | depth + 1, c :: cs =>
    if c = '"' then (readString (c :: cs)).map fun (s, rest) => (.string s, rest)
    else if c = '[' then
      (readEnclosed ']' (readPadded (readValue depth)) cs).map fun (vs, rest) => (.array vs, rest)
    else if c = '\x7b' then
      (readEnclosed '\x7d' (readMember (readValue depth)) cs).map fun (ms, rest) =>
        (.object ms, rest)
    else if c = 'n' then readLiteral "null" .null (c :: cs)
    else if c = 'f' then readLiteral "false" (.bool false) (c :: cs)
    else if c = 't' then readLiteral "true" (.bool true) (c :: cs)
    else (readNumber (c :: cs)).map fun (q, rest) => (.number q, rest)

/-- **Reads a JSON text.**  Values nest no deeper than the text is long. -/
def parse? (text : List Char) : Option Value :=
  match readPadded (readValue text.length) text with
  | some (v, []) => some v
  | _ => none

theorem Numeral.exists_cons (n : Numeral) :
    ∃ c cs, n.text = c :: cs ∧ (c = '-' ∨ c.isDigit = true) := by
  obtain ⟨c, cs, hc⟩ := List.exists_cons_of_ne_nil n.isDigits.1
  have hdigit := n.isDigits.2 c (by rw [hc]; simp)
  unfold Numeral.text Numeral.signText
  rw [hc]
  rcases n.negative with _ | _
  · exact ⟨c, _, rfl, Or.inr hdigit⟩
  · exact ⟨'-', _, rfl, Or.inl rfl⟩

theorem Quoted.exists_cons {text : List Char} {s : String} (h : Quoted text s) :
    ∃ cs, text = '"' :: cs := by
  obtain ⟨body, -, rfl⟩ := h
  exact ⟨_, rfl⟩

theorem ne_of_startsNumber {c d : Char} (h : c = '-' ∨ c.isDigit = true) (hd : d ≠ '-')
    (hd' : d.isDigit = false) : c ≠ d := by
  rintro rfl
  rcases h with h | h
  · exact hd h
  · rw [hd'] at h
    exact Bool.noConfusion h

/-- A value begins neither with a blank nor with a closing bracket. -/
theorem Denotes.exists_cons {text : List Char} {v : Value} (h : Denotes text v) :
    ∃ c cs, text = c :: cs ∧ isBlank c = false ∧ c ≠ ']' := by
  cases h with
  | null => exact ⟨_, _, rfl, by decide, by decide⟩
  | isFalse => exact ⟨_, _, rfl, by decide, by decide⟩
  | isTrue => exact ⟨_, _, rfl, by decide, by decide⟩
  | number n =>
    obtain ⟨c, cs, hn, hc⟩ := n.exists_cons
    refine ⟨c, cs, hn, ?_, ne_of_startsNumber hc (by decide) (by decide)⟩
    simp only [isBlank, Bool.or_eq_false_iff, decide_eq_false_iff_not]
    refine ⟨⟨⟨?_, ?_⟩, ?_⟩, ?_⟩ <;> exact ne_of_startsNumber hc (by decide) (by decide)
  | string hs =>
    obtain ⟨cs, rfl⟩ := hs.exists_cons
    exact ⟨_, _, rfl, by decide, by decide⟩
  | emptyArray _ => exact ⟨_, _, rfl, by decide, by decide⟩
  | array _ _ => exact ⟨_, _, rfl, by decide, by decide⟩
  | emptyObject _ => exact ⟨_, _, rfl, by decide, by decide⟩
  | object _ _ => exact ⟨_, _, rfl, by decide, by decide⟩

theorem skipBlanks_item {i : Item} (h : Denotes i.body i.value) (rest : List Char) :
    skipBlanks (i.text ++ rest) = i.body ++ (i.after ++ rest) := by
  obtain ⟨c, cs, hbody, hc, -⟩ := h.exists_cons
  unfold Item.text
  rw [List.append_assoc, List.append_assoc]
  refine skipBlanks_append i.blank_before ?_
  rw [hbody, List.cons_append, stops_cons]
  exact hc

theorem readPadded_append {i : Item} (h : Denotes i.body i.value)
    {read : List Char → Option (Value × List Char)}
    (hread : ∀ rest, Stops continuesNumber rest → read (i.body ++ rest) = some (i.value, rest))
    {rest : List Char} (hblank : Stops isBlank rest) (hnumber : Stops continuesNumber rest) :
    readPadded read (i.text ++ rest) = some (i.value, rest) := by
  have hafter : Stops continuesNumber (i.after ++ rest) :=
    hnumber.append_of_run i.blank_after fun _ => continuesNumber_of_isBlank
  unfold readPadded
  rw [skipBlanks_item h, hread _ hafter]
  dsimp only [Option.bind_eq_bind, Option.bind_some]
  rw [skipBlanks_append i.blank_after hblank]
  rfl

theorem skipBlanks_member (m : Member) (rest : List Char) : skipBlanks (m.text ++ rest) =
    m.label ++ (m.beforeColon ++ ':' :: (m.item.text ++ rest)) := by
  obtain ⟨cs, hlabel⟩ := m.quoted.exists_cons
  unfold Member.text
  rw [List.append_assoc, List.append_assoc, List.append_assoc, List.cons_append]
  refine skipBlanks_append m.blank_before ?_
  rw [hlabel, List.cons_append, stops_cons]
  decide

theorem readMember_append {m : Member} (h : Denotes m.item.body m.item.value)
    {read : List Char → Option (Value × List Char)}
    (hread : ∀ rest, Stops continuesNumber rest →
      read (m.item.body ++ rest) = some (m.item.value, rest))
    {rest : List Char} (hblank : Stops isBlank rest) (hnumber : Stops continuesNumber rest) :
    readMember read (m.text ++ rest) = some (m.entry, rest) := by
  have hcolon : skipBlanks (m.beforeColon ++ ':' :: (m.item.text ++ rest)) =
      ':' :: (m.item.text ++ rest) :=
    skipBlanks_append m.blank_beforeColon (stops_cons.mpr (by decide))
  unfold readMember
  rw [skipBlanks_member, readString_append m.quoted]
  dsimp only [Option.bind_eq_bind, Option.bind_some]
  rw [hcolon, List.head?_cons, if_pos rfl, List.tail_cons,
    readPadded_append h hread hblank hnumber]
  rfl

theorem readEnclosed_blank {α : Type} {close : Char}
    (read : List Char → Option (α × List Char)) {w : List Char} (hw : Blank w)
    (hclose : isBlank close = false) (rest : List Char) :
    readEnclosed close read (w ++ close :: rest) = some ([], rest) := by
  unfold readEnclosed
  rw [skipBlanks_append hw (stops_cons.mpr hclose), List.head?_cons, if_pos rfl, List.tail_cons]

theorem readEnclosed_append {α β : Type} {close : Char}
    {read : List Char → Option (α × List Char)} {text : β → List Char} {value : β → α}
    {xs : List β} (hne : xs ≠ []) (hclose : close ≠ ',')
    (hbegins : ∀ x ∈ xs, ∀ rest, (skipBlanks (text x ++ rest)).head? ≠ some close)
    (hread : ∀ x ∈ xs, ∀ c rest, c = ',' ∨ c = close →
      read (text x ++ c :: rest) = some (value x, c :: rest)) (rest : List Char) :
    readEnclosed close read (joined (xs.map text) ++ close :: rest) =
      some (xs.map value, rest) := by
  have hhead : (skipBlanks (joined (xs.map text) ++ close :: rest)).head? ≠ some close := by
    obtain ⟨x, ys, rfl⟩ := List.exists_cons_of_ne_nil hne
    obtain ⟨more, hmore⟩ := exists_joined_cons (text x) (ys.map text)
    rw [List.map_cons, hmore, List.append_assoc]
    exact hbegins x (by simp) _
  have hfuel : xs.length ≤ (joined (xs.map text) ++ close :: rest).length := by
    have hlen := length_le_joined (xs.map text)
    rw [List.length_map] at hlen
    rw [List.length_append, List.length_cons]
    omega
  unfold readEnclosed
  rw [if_neg hhead]
  exact readSequence_append hne hclose hread hfuel rest

theorem readValue_number (n : Numeral) (depth : Nat) {rest : List Char}
    (hrest : Stops continuesNumber rest) :
    readValue (depth + 1) (n.text ++ rest) = some (.number n.value, rest) := by
  have hread := readNumber_append n hrest
  obtain ⟨c, cs, hn, hc⟩ := n.exists_cons
  have hne : ∀ d : Char, d ≠ '-' → d.isDigit = false → c ≠ d :=
    fun d hd hd' => ne_of_startsNumber hc hd hd'
  rw [hn, List.cons_append] at hread ⊢
  rw [readValue, if_neg (hne _ (by decide) (by decide)), if_neg (hne _ (by decide) (by decide)),
    if_neg (hne _ (by decide) (by decide)), if_neg (hne _ (by decide) (by decide)),
    if_neg (hne _ (by decide) (by decide)), if_neg (hne _ (by decide) (by decide)), hread]
  rfl

theorem stops_of_separator {c close : Char} (h : c = ',' ∨ c = close)
    (hblank : isBlank close = false) (hnumber : continuesNumber close = false)
    (rest : List Char) : Stops isBlank (c :: rest) ∧ Stops continuesNumber (c :: rest) := by
  rw [stops_cons, stops_cons]
  rcases h with rfl | rfl
  · exact ⟨by decide, by decide⟩
  · exact ⟨hblank, hnumber⟩

/-- **What the grammar derives is read as the value that it denotes**, whatever follows that cannot
belong to a number. -/
theorem readValue_append {text : List Char} {v : Value} (h : Denotes text v) {depth : Nat}
    (hdepth : text.length ≤ depth) {rest : List Char} (hrest : Stops continuesNumber rest) :
    readValue depth (text ++ rest) = some (v, rest) := by
  obtain ⟨depth, rfl⟩ : ∃ k, depth = k + 1 := by
    obtain ⟨c, cs, rfl, -⟩ := h.exists_cons
    rw [List.length_cons] at hdepth
    exact ⟨depth - 1, by omega⟩
  induction h generalizing depth rest with
  | null => rfl
  | isFalse => rfl
  | isTrue => rfl
  | number n => exact readValue_number n depth hrest
  | string hs =>
    have hread := readString_append hs rest
    obtain ⟨cs, rfl⟩ := hs.exists_cons
    rw [List.cons_append] at hread ⊢
    rw [readValue, if_pos rfl, hread]
    rfl
  | emptyArray hw =>
    rw [List.cons_append, List.append_assoc, List.singleton_append, readValue,
      if_neg (by decide), if_pos rfl, readEnclosed_blank _ hw (by decide)]
    rfl
  | @array items hne hitems ih =>
    have hread : ∀ i ∈ items, ∀ rest, Stops continuesNumber rest →
        readValue depth (i.body ++ rest) = some (i.value, rest) := by
      -- the brackets take two characters of the text, so a body fits into one level less
      intro i hi rest hrest
      have hlen := length_le_of_mem_joined (List.mem_map_of_mem (f := Item.text) hi)
      simp only [Item.text, List.length_cons, List.length_append, List.length_nil] at hdepth hlen
      obtain ⟨k, rfl⟩ : ∃ k, depth = k + 1 := ⟨depth - 1, by omega⟩
      exact ih i hi hrest k (by omega)
    have hbegins : ∀ i ∈ items, ∀ rest, (skipBlanks (i.text ++ rest)).head? ≠ some ']' := by
      intro i hi rest
      obtain ⟨c, cs, hbody, -, hc⟩ := (hitems i hi).exists_cons
      rw [skipBlanks_item (hitems i hi), hbody]
      simpa using hc
    have hpadded : ∀ i ∈ items, ∀ c rest, c = ',' ∨ c = ']' →
        readPadded (readValue depth) (i.text ++ c :: rest) = some (i.value, c :: rest) := by
      intro i hi c rest hc
      obtain ⟨hblank, hnumber⟩ := stops_of_separator hc (by decide) (by decide) rest
      exact readPadded_append (hitems i hi) (hread i hi) hblank hnumber
    rw [List.cons_append, List.append_assoc, List.singleton_append, readValue,
      if_neg (by decide), if_pos rfl, readEnclosed_append hne (by decide) hbegins hpadded]
    rfl
  | emptyObject hw =>
    rw [List.cons_append, List.append_assoc, List.singleton_append, readValue,
      if_neg (by decide), if_neg (by decide), if_pos rfl, readEnclosed_blank _ hw (by decide)]
    rfl
  | @object members hne hmembers ih =>
    have hread : ∀ m ∈ members, ∀ rest, Stops continuesNumber rest →
        readValue depth (m.item.body ++ rest) = some (m.item.value, rest) := by
      intro m hm rest hrest
      have hlen := length_le_of_mem_joined (List.mem_map_of_mem (f := Member.text) hm)
      simp only [Member.text, Item.text, List.length_cons, List.length_append, List.length_nil]
        at hdepth hlen
      obtain ⟨k, rfl⟩ : ∃ k, depth = k + 1 := ⟨depth - 1, by omega⟩
      exact ih m hm hrest k (by omega)
    have hbegins : ∀ m ∈ members, ∀ rest,
        (skipBlanks (m.text ++ rest)).head? ≠ some '\x7d' := by
      intro m _ rest
      obtain ⟨cs, hlabel⟩ := m.quoted.exists_cons
      rw [skipBlanks_member, hlabel]
      simp
    have hpadded : ∀ m ∈ members, ∀ c rest, c = ',' ∨ c = '\x7d' →
        readMember (readValue depth) (m.text ++ c :: rest) = some (m.entry, c :: rest) := by
      intro m hm c rest hc
      obtain ⟨hblank, hnumber⟩ := stops_of_separator hc (by decide) (by decide) rest
      exact readMember_append (hmembers m hm) (hread m hm) hblank hnumber
    rw [List.cons_append, List.append_assoc, List.singleton_append, readValue,
      if_neg (by decide), if_neg (by decide), if_pos rfl,
      readEnclosed_append hne (by decide) hbegins hpadded]
    rfl

/-- **A JSON text is read as its value.** -/
theorem parse?_of_isText {text : List Char} {v : Value} (h : IsText text v) :
    parse? text = some v := by
  obtain ⟨i, hi, rfl, rfl⟩ := h
  have hlen : i.body.length ≤ i.text.length := by
    simp only [Item.text, List.length_append]
    omega
  have hread := readPadded_append hi (fun _ => readValue_append hi hlen) (stops_nil _) (stops_nil _)
  rw [List.append_nil] at hread
  unfold parse?
  rw [hread]

/-- **A text denotes at most one value.** -/
theorem IsText.unique {text : List Char} {v w : Value} (hv : IsText text v) (hw : IsText text w) :
    v = w := by
  have hread := parse?_of_isText hv
  rw [parse?_of_isText hw] at hread
  exact (Option.some.inj hread).symm

end TagNesting.Json
