set_option autoImplicit false

/-!
# Decimal: binary floating point magnitudes

The finite magnitudes of the 64 bit binary format, as exact pairs of a significand and a power of
two, with the rounding that leads into them.  No machine arithmetic is involved: every quotient of
naturals is rounded by integer division, to the nearest magnitude and on a tie to the one with an
even significand.
-/

namespace ParseLens.Decimal

/-- The natural number nearest to `num / den`; half way between two, the even one. -/
def roundQuotient (num den : Nat) : Nat :=
  let q := num / den
  let r := num % den
  if den < 2 * r || (2 * r == den && q % 2 == 1) then q + 1 else q

/-- The magnitude `significand * 2 ^ exponent` of a finite number.  The significand has 53 bits at
most, and exactly 53 unless the exponent is the least one, -1074. -/
structure Magnitude where
  /-- The digits in base two, as one natural number. -/
  significand : Nat
  /-- The power of two that they count. -/
  exponent : Int
  deriving DecidableEq, Repr, Inhabited

namespace Magnitude

/-- Zero. -/
def zero : Magnitude := ⟨0, -1074⟩

/-- The numerator of the magnitude as a quotient of naturals. -/
def num (x : Magnitude) : Nat := x.significand * Nat.pow 2 x.exponent.toNat

/-- The denominator of the magnitude as a quotient of naturals. -/
def den (x : Magnitude) : Nat := Nat.pow 2 (-x.exponent).toNat

/-- The quotient `num / den` in units of `2 ^ exponent`, rounded down. -/
def floorIn (num den : Nat) (exponent : Int) : Nat :=
  num * Nat.pow 2 (-exponent).toNat / (den * Nat.pow 2 exponent.toNat)

/-- The quotient `num / den` in units of `2 ^ exponent`, rounded to nearest. -/
def roundIn (num den : Nat) (exponent : Int) : Nat :=
  roundQuotient (num * Nat.pow 2 (-exponent).toNat) (den * Nat.pow 2 exponent.toNat)

/-- The magnitude nearest to `num / den`, or none when that is beyond the largest finite one.

The difference of the two binary logarithms finds the unit up to a factor of two; it is taken one
larger where the quotient would need 54 bits.  A significand that rounding carries to 54 bits is a
power of two and moves to the next unit. -/
def ofQuotient? (num den : Nat) : Option Magnitude :=
  if num = 0 then some zero
  else
    let guess : Int := max ((num.log2 : Int) - den.log2 - 53) (-1074)
    let unit := if floorIn num den guess < Nat.pow 2 53 then guess else guess + 1
    let s := roundIn num den unit
    let x : Magnitude := if s = Nat.pow 2 53 then ⟨Nat.pow 2 52, unit + 1⟩ else ⟨s, unit⟩
    if 971 < x.exponent then none else some x

/-- The magnitude nearest to a natural number below the largest finite one. -/
def ofNat (n : Nat) : Magnitude := (ofQuotient? n 1).getD zero

/-- The product, rounded; none beyond the largest finite magnitude. -/
def mul? (x y : Magnitude) : Option Magnitude := ofQuotient? (x.num * y.num) (x.den * y.den)

/-- The quotient, rounded; zero in place of a quotient beyond the largest finite magnitude, which
does not arise for a divisor of one or more. -/
def div (x y : Magnitude) : Magnitude := (ofQuotient? (x.num * y.den) (x.den * y.num)).getD zero

example : ofQuotient? 1 10 = some ⟨0x1999999999999a, -56⟩ := by decide +kernel
example : ofQuotient? (2 ^ 53 + 1) 1 = some ⟨2 ^ 52, 1⟩ := by decide +kernel
example : ofQuotient? (2 ^ 1024) 1 = none := by decide +kernel

end Magnitude

end ParseLens.Decimal
