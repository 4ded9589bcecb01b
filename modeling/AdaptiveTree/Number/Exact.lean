/-!
# The exact value of a double

A double is a NaN, an infinity, or a sign with a natural mantissa scaled by a power of two. What the
library decides about a double (is it an integer, which one, what is its remainder) is decided on
that exact value.
-/

set_option autoImplicit false

namespace AdaptiveTree.Number

open Float.Model (UnpackedFloat)
open Float.Model.UnpackedFloat (Sign)

/-- What a double stands for: `dyadic s m e` is `m · 2^e`, negated when `s` is true. A zero keeps
its sign. -/
inductive Exact where
  | nan
  | infinite (negative : Bool)
  | dyadic (negative : Bool) (mantissa : Nat) (exponent : Int)
deriving DecidableEq, Repr

/-- Whether a sign is the minus sign. -/
def isMinus : Sign → Bool
  | .negative => true
  | .positive => false

/-- The sign that is the minus sign when `negative` is true. -/
def signOf (negative : Bool) : Sign :=
  if negative then .negative else .positive

/-- The exact value of `d`. -/
def exact (d : Float) : Exact :=
  match d.toModel.unpack with
  | .notANumber => .nan
  | .infinity s => .infinite (isMinus s)
  | .zero s => .dyadic (isMinus s) 0 0
  | .finite s m e _ => .dyadic (isMinus s) m e

/-- The double nearest to `m · 2^e` with the given sign; a tie goes to the even mantissa. -/
def nearest (negative : Bool) (mantissa : Nat) (exponent : Int) : Float :=
  .ofModel (.pack (UnpackedFloat.round .binary64 (signOf negative) mantissa exponent))

/-- The double nearest to the integer `n`. -/
def ofInt (n : Int) : Float :=
  nearest (n < 0) n.natAbs 0

/-- The double that is not a number. -/
def nan : Float :=
  .ofModel (.pack .notANumber)

/-- The infinity of the given sign. -/
def infinity (negative : Bool) : Float :=
  .ofModel (.pack (.infinity (signOf negative)))

/-- The natural number `m · 2^e`, if it is one. -/
def scaled? (mantissa : Nat) (exponent : Int) : Option Nat :=
  match exponent with
  | .ofNat e => some (mantissa <<< e)
  | .negSucc e => if mantissa % (1 <<< (e + 1)) = 0 then some (mantissa >>> (e + 1)) else none

/-- The integer that `d` is, if it is one; both zeros are the integer zero. -/
def integer? (d : Float) : Option Int :=
  match exact d with
  | .dyadic s m e => (scaled? m e).map fun n => if s then -(n : Int) else (n : Int)
  | _ => none

/-- Whether `d` is the zero with a minus sign. -/
def isNegativeZero (d : Float) : Bool :=
  match exact d with
  | .dyadic true 0 _ => true
  | _ => false

/-- Whether `d` is not a number. -/
def isNaN (d : Float) : Bool :=
  match exact d with
  | .nan => true
  | _ => false

/-- Remainder of a division whose quotient is cut off toward zero. It is exact and has the sign of
the dividend, also when it is zero. -/
def remainder (a b : Float) : Float :=
  match exact a, exact b with
  | .dyadic s m e, .dyadic _ n f =>
    if n = 0 then nan
    else
      let low := min e f
      nearest s ((m <<< (e - low).toNat) % (n <<< (f - low).toNat)) low
  | .dyadic .., .infinite _ => a
  | _, _ => nan

end AdaptiveTree.Number
