/-!
# Double-precision numbers

A finite number of the double-precision format, its sign aside, is a significand below `2 ^ 53`
times a power of two that is at least `2 ^ (-1074)`.  A quotient is brought to the nearest of these
numbers, a tie going to the even significand, all in exact arithmetic.
-/

namespace TagNesting.Decimal

/-- The number `significand * 2 ^ exponent`. -/
structure Binary64 where
  significand : Nat
  exponent : Int
  deriving DecidableEq, Repr

/-- A power of two. -/
def pow2 (n : Nat) : Nat := Nat.pow 2 n

/-- A power of ten. -/
def pow10 (n : Nat) : Nat := Nat.pow 10 n

/-- The integer nearest to a quotient, a tie going to the even one. -/
def roundQuotient (num den : Nat) : Nat :=
  let q := num / den
  let r := num % den
  if 2 * r < den then q else if den < 2 * r then q + 1 else q + q % 2

namespace Binary64

/-- The least exponent. -/
def minExponent : Int := -1074

/-- The largest exponent. -/
def maxExponent : Int := 971

/-- The least significand that is not small for its exponent. -/
def hidden : Nat := pow2 52

/-- Zero. -/
def zero : Binary64 := ⟨0, minExponent⟩

/-- The exponent of the power of two at or just below a positive quotient. -/
def floorLog2 (num den : Nat) : Int :=
  let d : Int := (Nat.log2 num : Int) - Nat.log2 den
  let reached := if 0 ≤ d then den * pow2 d.toNat ≤ num else den ≤ num * pow2 (-d).toNat
  if reached then d else d - 1

/-- **The number nearest to a quotient**, or nothing if it is beyond the largest one. -/
def ofQuotient? (num den : Nat) : Option Binary64 :=
  if num = 0 then some zero
  else
    let e := max minExponent (floorLog2 num den - 52)
    let m := if 0 ≤ e then roundQuotient num (den * pow2 e.toNat)
      else roundQuotient (num * pow2 (-e).toNat) den
    let x : Binary64 := if m = 2 * hidden then ⟨hidden, e + 1⟩ else ⟨m, e⟩
    if maxExponent < x.exponent then none else some x

/-- The number nearest to `digits * 10 ^ exponent`, or nothing if it is beyond the largest one.
Where the decimal point stands far outside the format's range no power is computed. -/
def ofDecimal? (digits : Nat) (exponent : Int) : Option Binary64 :=
  let size : Int := (Nat.toDigits 10 digits).length
  if digits = 0 then some zero
  else if 400 < size + exponent then none
  else if size + exponent < -400 then some zero
  else if 0 ≤ exponent then ofQuotient? (digits * pow10 exponent.toNat) 1
  else ofQuotient? digits (pow10 (-exponent).toNat)

end Binary64

end TagNesting.Decimal
