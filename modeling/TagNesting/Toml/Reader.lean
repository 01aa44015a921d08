import TagNesting.Toml.Place
import TagNesting.Toml.Token

/-!
# Reading tokens

A reader takes tokens off the front or fails at a place.  Loops are written as a step that either
goes on or ends (`repeatStep`); the number of tokens bounds the number of steps, since every step
that goes on reads a token.
-/

namespace TagNesting.Toml

/-- The tokens that are left, and the token that stands for the end of the text. -/
structure Input where
  rest : List Token
  finish : Token
  /-- The number of tokens of the whole text, which bounds every loop. -/
  size : Nat := rest.length

/-- The tokens of a text. -/
def Input.ofText (text : String) : Input :=
  let cs := text.toList
  { rest := tokensOf cs, finish := ⟨.finish, cs.length, []⟩ }

/-- Takes something off the front of the tokens. -/
abbrev Reader := StateT Input (Except SyntaxError)

namespace Reader

variable {α σ : Type}

/-- The text is not well formed at a place. -/
def failAt (place : Nat) : Reader α := throw ⟨place⟩

/-- The next token, which is not read. -/
def peek : Reader Token := return (← get).rest.headD (← get).finish

/-- Leaves out the next token. -/
def skip : Reader Unit := modify fun i => { i with rest := i.rest.drop 1 }

/-- Reads the next token. -/
def next : Reader Token := do
  let t ← peek
  skip
  return t

/-- Reads a token of a kind if it comes next, and says whether it did. -/
def accept (kind : Token.Kind) : Reader Bool := do
  if (← peek).kind = kind then
    skip
    return true
  return false

/-- Repeats a step at most as often as the first argument says. -/
def repeatAtMost (step : σ → Reader (σ ⊕ α)) : Nat → σ → Reader α
  | 0, _ => do failAt (← peek).place
  | n + 1, s => do
    match ← step s with
    | .inl s => repeatAtMost step n s
    | .inr a => return a

/-- Repeats a step until it ends.  A step that goes on reads at least one token. -/
def repeatStep (step : σ → Reader (σ ⊕ α)) (start : σ) : Reader α := do
  repeatAtMost step ((← get).size + 1) start

end Reader

/-! ### Blanks, comments and line ends -/

/-- A character that may stand in comments and strings: no control character but the tab. -/
def isPlain (c : Char) : Bool := c = '\t' || (0x20 ≤ c.toNat && c.toNat ≠ 0x7F)

namespace Reader

/-- Leaves out blanks. -/
def skipBlanks : Reader Unit := do discard (accept .blank)

/-- A line end must not be a carriage return alone. -/
def checkLineEnd (t : Token) : Reader Unit := do
  if t.text = ['\r'] then failAt t.stop

/-- A comment must hold plain characters only, and a line end follows it. -/
def checkComment (t : Token) : Reader Unit := do
  let plain := t.text.takeWhile isPlain
  if plain.length < t.text.length then failAt (t.place + plain.length)
  let after ← peek
  if after.kind = .lineEnd then
    skip
    checkLineEnd after

/-- Reads a blank, a comment or a line end if one comes next, and says whether it did. -/
def acceptSpace : Reader Bool := do
  let t ← peek
  match t.kind with
  | .blank =>
    skip
    return true
  | .lineEnd =>
    skip
    checkLineEnd t
    return true
  | .comment =>
    skip
    checkComment t
    return true
  | _ => return false

/-- Reads the end of a statement: blanks, a comment, and a line end or the end of the text. -/
def endOfStatement : Reader Unit := do
  skipBlanks
  let t ← peek
  unless t.kind = .finish do
    unless ← acceptSpace do failAt t.place

/-- Leaves out all up to the end of the line. -/
def skipLine : Reader Unit :=
  repeatStep (fun () => do
    match (← peek).kind with
    | .finish => return .inr ()
    | .lineEnd | .comment =>
      discard acceptSpace
      return .inr ()
    | _ =>
      skip
      return .inl ()) ()

end Reader

end TagNesting.Toml
