import TagNesting.Decimal.Binary64

/-!
# The shortest decimal of a number

Every decimal in an interval around a double-precision number is nearest to that number: the
interval ends half-way to the two neighbours, and its ends belong to it if the significand is even.
The shortest decimal has the fewest digits that any decimal in the interval has, and of those with
that many digits it is the nearest.  On the grid of decimals with a given number of digits only the
two that enclose the number need to be tried.
-/

namespace TagNesting.Decimal

/-- The number `digits * 10 ^ exponent`. -/
structure Scientific where
  digits : Nat
  exponent : Int
  deriving DecidableEq, Repr

/-- The same number without the last digit if that is a zero. -/
def Scientific.dropZero (s : Scientific) : Scientific :=
  if s.digits % 10 = 0 then ⟨s.digits / 10, s.exponent + 1⟩ else s

namespace Binary64

/-- The quotient `(num, den)` of `n * 2 ^ e`. -/
def scaled (n : Nat) (e : Int) : Nat × Nat :=
  if 0 ≤ e then (n * pow2 e.toNat, 1) else (n, pow2 (-e).toNat)

/-- The four quantities of the search over one denominator: the number, the two ends of its
interval, and the denominator. -/
structure Interval where
  value : Nat
  low : Nat
  high : Nat
  den : Nat
  /-- The ends belong to the interval. -/
  closed : Bool
  deriving DecidableEq, Repr

/-- The interval of the reals that are nearest to the number.  Below a power of two the lower
neighbour is twice as close. -/
def interval (x : Binary64) : Interval :=
  let below := if x.significand = hidden ∧ minExponent < x.exponent then 1 else 2
  let at4 (n : Nat) := (scaled n (x.exponent - 2)).1
  { value := at4 (4 * x.significand)
    low := at4 (4 * x.significand - below)
    high := at4 (4 * x.significand + 2)
    den := (scaled 1 (x.exponent - 2)).2
    closed := x.significand % 2 = 0 }

/-- Whether `digits * 10 ^ exponent` lies in the interval. -/
def Interval.holds (i : Interval) (digits : Nat) (exponent : Int) : Bool :=
  let (num, den) :=
    if 0 ≤ exponent then (digits * pow10 exponent.toNat, 1) else (digits, pow10 (-exponent).toNat)
  let c := num * i.den
  if i.closed then i.low * den ≤ c && c ≤ i.high * den
  else i.low * den < c && c < i.high * den

/-- How many digits stand before the decimal point of a positive quotient; zero and negative
numbers count the zeros behind it. -/
def pointPlace (num den : Nat) : Int :=
  if den ≤ num then (Nat.toDigits 10 (num / den)).length
  else
    -- One more than the least such number of zeros brings the quotient to one or more.
    let zeros := (List.range 400).find? fun k => den ≤ num * pow10 (k + 1)
    Int.negOfNat (zeros.getD 0)

/-- The decimal on the grid of `10 ^ exponent` that lies in the interval, the nearer if two do. -/
def Interval.onGrid? (i : Interval) (exponent : Int) : Option Nat :=
  let (num, den) :=
    if 0 ≤ exponent then (i.value, i.den * pow10 exponent.toNat)
    else (i.value * pow10 (-exponent).toNat, i.den)
  let lower := num / den
  let upper := lower + 1
  match i.holds lower exponent && lower != 0, i.holds upper exponent with
  | true, true => some (if 2 * (num % den) < den then lower else upper)
  | true, false => some lower
  | false, true => some upper
  | false, false => none

/-- **The shortest decimal** that is nearest to the number; seventeen digits always suffice.  A
number just below a power of ten may find that power on the first grid, as ten units of it. -/
def shortest (x : Binary64) : Scientific :=
  if x.significand = 0 then ⟨0, 0⟩
  else
    let i := x.interval
    let place := pointPlace i.value i.den
    let found := (List.range 17).findSome? fun (n : Nat) =>
      let exponent := place - ((n : Int) + 1)
      (i.onGrid? exponent).map fun d => Scientific.dropZero ⟨d, exponent⟩
    found.getD ⟨0, 0⟩

end Binary64

namespace Scientific

/-- **Positional notation** with at least one digit on either side of the point. -/
def positional (s : Scientific) : String :=
  let digits := Nat.toDigits 10 s.digits
  if 0 ≤ s.exponent then
    String.ofList (digits ++ List.replicate s.exponent.toNat '0' ++ ['.', '0'])
  else
    let places := (-s.exponent).toNat
    let padded := List.replicate (places + 1 - digits.length) '0' ++ digits
    let whole := padded.length - places
    String.ofList (padded.take whole ++ '.' :: padded.drop whole)

end Scientific

end TagNesting.Decimal
