import ParseLens.Decimal.Binary64

set_option autoImplicit false

/-!
# Decimal: shortest texts

The decimal text of a floating point magnitude: the fewest digits that read back as the same
magnitude, and of the numbers with that many digits the nearest one.

A magnitude stands for the interval of the reals that round to it; its ends belong to it exactly
when the significand is even.  The decimal numbers with a given last place form a grid.  If a
point of a grid lies in the interval, so does one of the two neighbours of the magnitude on that
grid, so it is enough to look at these, from the coarsest grid to finer ones.

How digits and exponent are laid out is a second decision, and a record (`Layout`).
-/

namespace ParseLens.Decimal

/-- The number `digits * 10 ^ exponent`. -/
structure Scientific where
  /-- All digits, as one natural number. -/
  digits : Nat
  /-- The power of ten that the last digit counts. -/
  exponent : Int
  deriving DecidableEq, Repr, Inhabited

namespace Magnitude

/-- The neighbour of `x` on the grid of the multiples of `10 ^ place` that rounds to `x`, if there
is one; of two the nearer, on a tie the even one.

The interval of `x` is counted in quarters of its unit: from `4 s - 2`, or from `4 s - 1` where `x`
is a power of two and the magnitudes below are denser, to `4 s + 2`. -/
def gridPoint? (x : Magnitude) (place : Int) : Option Nat :=
  let s := x.significand
  let quarter := x.exponent - 2
  -- one step of the grid and one quarter, as multiples of a common unit
  let step := Nat.pow 10 place.toNat * Nat.pow 2 (-quarter).toNat
  let part := Nat.pow 10 (-place).toNat * Nat.pow 2 quarter.toNat
  let low := (if s = Nat.pow 2 52 ∧ -1074 < x.exponent then 4 * s - 1 else 4 * s - 2) * part
  let high := (4 * s + 2) * part
  let value := 4 * s * part
  let inside (g : Nat) : Bool :=
    if s % 2 = 0 then low ≤ g * step && g * step ≤ high else low < g * step && g * step < high
  let g := value / step
  if inside g && inside (g + 1) then
    let below := value - g * step
    let above := (g + 1) * step - value
    if below < above then some g
    else if above < below then some (g + 1)
    else if g % 2 = 0 then some g else some (g + 1)
  else if inside g then some g
  else if inside (g + 1) then some (g + 1)
  else none

/-- A place at or above that of the first decimal digit, by at most one. -/
def topPlace (x : Magnitude) : Int :=
  ((Nat.toDigits 10 x.num).length : Int) - (Nat.toDigits 10 x.den).length + 1

/-- The shortest decimal number that rounds to `x`.  Seventeen digits always suffice. -/
def shortest (x : Magnitude) : Scientific :=
  if x.significand = 0 then ⟨0, 0⟩
  else
    let found := (List.range 20).findSome? fun (i : Nat) =>
      (x.gridPoint? (x.topPlace - i)).map fun g => (⟨g, x.topPlace - i⟩ : Scientific)
    found.getD ⟨0, 0⟩

end Magnitude

/-- How a decimal number is written. -/
structure Layout where
  /-- The least exponent of the first digit for which no power of ten is written. -/
  leastPlain : Int
  /-- The largest such exponent. -/
  mostPlain : Int
  deriving DecidableEq, Repr, Inhabited

namespace Layout

/-- The text of a number: with a point and at least one digit on both sides of it, or with one
digit before the point (and no point after a single digit), the letter `e`, and the power of ten
with its sign. -/
def text (l : Layout) (x : Scientific) : List Char :=
  let ds := Nat.toDigits 10 x.digits
  let point : Int := ds.length + x.exponent
  let top := point - 1
  if x.digits = 0 then ['0', '.', '0']
  else if l.leastPlain ≤ top ∧ top ≤ l.mostPlain then
    if 0 ≤ x.exponent then ds ++ List.replicate x.exponent.toNat '0' ++ ['.', '0']
    else if 0 < point then ds.take point.toNat ++ '.' :: ds.drop point.toNat
    else ['0', '.'] ++ List.replicate (-point).toNat '0' ++ ds
  else
    let tail := ds.drop 1
    ds.take 1 ++ (if tail.isEmpty then [] else '.' :: tail) ++
      ['e', if top < 0 then '-' else '+'] ++ Nat.toDigits 10 top.natAbs

example : (⟨-5, 15⟩ : Layout).text ⟨12, -7⟩ = "1.2e-6".toList := by decide +kernel
example : (⟨-5, 15⟩ : Layout).text ⟨1, -5⟩ = "0.00001".toList := by decide +kernel

end Layout

end ParseLens.Decimal
