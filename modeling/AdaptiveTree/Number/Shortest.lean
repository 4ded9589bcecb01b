/-!
# Shortest decimal digits

The fewest decimal digits that still single out a binary number among its neighbours, and of those
the nearest to it. A number `m · 2^q` is rounded to by every real between the midpoints to its two
neighbours, the midpoints included exactly when `m` is even. On the grid of decimals with a given
number of digits it is enough to test the two grid points around the number.
-/

set_option autoImplicit false

namespace AdaptiveTree.Number

/-- A positive rational, as numerator and denominator. -/
structure Ratio where
  num : Nat
  den : Nat

namespace Ratio

/-- The rational `m · 2^q`. -/
def ofBinary (m : Nat) (q : Int) : Ratio :=
  ⟨m <<< q.toNat, 1 <<< (-q).toNat⟩

/-- The rational `d · 10^k`. -/
def ofDecimal (d : Nat) (k : Int) : Ratio :=
  ⟨d * Nat.pow 10 k.toNat, Nat.pow 10 (-k).toNat⟩

/-- Whether the first rational is below the second. -/
def below (a b : Ratio) : Bool :=
  a.num * b.den < b.num * a.den

/-- The integer part of `a / 10^k`. -/
def floorAt (a : Ratio) (k : Int) : Nat :=
  (a.num * Nat.pow 10 (-k).toNat) / (a.den * Nat.pow 10 k.toNat)

/-- Twice the distance from the grid point `d · 10^k` up to `a` is at least one grid step. -/
def upperHalf (a : Ratio) (d : Nat) (k : Int) : Bool :=
  !a.below (ofDecimal (10 * d + 5) (k - 1))

end Ratio

/-- The reals that are rounded to one binary number, by their end points. -/
structure Rounding where
  low : Ratio
  high : Ratio
  closed : Bool

/-- The reals that are rounded to `m · 2^q`. Below a power of two the lower neighbour is half as far
away as the upper one. -/
def Rounding.of (m : Nat) (q : Int) : Rounding :=
  { low :=
      if m = 4503599627370496 ∧ q ≠ -1074 then .ofBinary (4 * m - 1) (q - 2)
      else .ofBinary (2 * m - 1) (q - 1)
    high := .ofBinary (2 * m + 1) (q - 1)
    closed := m % 2 = 0 }

/-- Whether `a` is rounded to the number. -/
def Rounding.holds (r : Rounding) (a : Ratio) : Bool :=
  if r.closed then !a.below r.low && !r.high.below a
  else r.low.below a && a.below r.high

/-- The better of the two grid points of step `10^k` around the number, if one of them is rounded to
the number; of two the nearer, and the upper one of two equally near. -/
def onGrid? (m : Nat) (q : Int) (k : Int) : Option Nat :=
  let a := Ratio.ofBinary m q
  let d := a.floorAt k
  let down := (Rounding.of m q).holds (.ofDecimal d k)
  let up := (Rounding.of m q).holds (.ofDecimal (d + 1) k)
  if down && up then some (if a.upperHalf d k then d + 1 else d)
  else if down then some d
  else if up then some (d + 1)
  else none

/-- The first grid with a hit among those of steps `10^k`, `10^(k-1)`, and so on. Going up from a
single nine gives ten, which is one digit of the next coarser grid. -/
def firstGrid (m : Nat) (q : Int) : Nat → Int → Nat × Int
  | 0, k => ((Ratio.ofBinary m q).floorAt k, k)
  | tries + 1, k =>
    match onGrid? m q k with
    | some d => if d = 10 then (1, k + 1) else (d, k)
    | none => firstGrid m q tries (k - 1)

/-- The exponent of the leading decimal digit of `a`, found by going up or down from a guess. -/
def leadingExponent (a : Ratio) : Nat → Int → Int
  | 0, p => p
  | tries + 1, p =>
    if a.floorAt p = 0 then leadingExponent a tries (p - 1)
    else if a.floorAt (p + 1) ≠ 0 then leadingExponent a tries (p + 1)
    else p

/-- The shortest digits of `m · 2^q`, as a number `d` and the power of ten that scales it. -/
def shortest (m : Nat) (q : Int) : Nat × Int :=
  let a := Ratio.ofBinary m q
  let guess : Int := ((m.log2 : Int) + q) * 30103 / 100000
  firstGrid m q 18 (leadingExponent a 4 guess)

end AdaptiveTree.Number
