import AdaptiveTree.Number.Exact
import AdaptiveTree.Number.Shortest

/-!
# The text of a number

An integer below `10^21` in size is written with all its digits. Every other finite number is
written with its shortest digits. The notation is positional in both cases, never with an exponent,
and both zeros are written without a sign.
-/

set_option autoImplicit false

namespace AdaptiveTree.Number

/-- The positional decimal notation of `d · 10^k`. -/
def positional (d : Nat) (k : Int) : String :=
  let digits := Nat.toDigits 10 d
  match k with
  | .ofNat zeros => String.ofList (digits ++ List.replicate zeros '0')
  | .negSucc n =>
    let places := n + 1
    let padded := List.replicate (places + 1 - digits.length) '0' ++ digits
    String.ofList (padded.take (padded.length - places)) ++ "." ++
      String.ofList (padded.drop (padded.length - places))

/-- Decimal digits of an integer, with a minus sign if it is negative. -/
def intText (n : Int) : String :=
  if n < 0 then "-" ++ String.ofList (Nat.toDigits 10 n.natAbs)
  else String.ofList (Nat.toDigits 10 n.natAbs)

/-- Integers below this size are written with all their digits. -/
def digitLimit : Nat := 1000000000000000000000

/-- The text of the number `d`. -/
def text (d : Float) : String :=
  match exact d with
  | .nan => "NaN"
  | .infinite s => if s then "-Infinity" else "Infinity"
  | .dyadic s m e =>
    match scaled? m e with
    | some n =>
      if n < digitLimit then intText (if s then -(n : Int) else (n : Int))
      else (if s then "-" else "") ++ positional (shortest m e).1 (shortest m e).2
    | none => (if s then "-" else "") ++ positional (shortest m e).1 (shortest m e).2

/-- The digits `d · 10^k` with one digit before the point and an exponent. -/
def scientific (d : Nat) (k : Int) : String :=
  let digits := Nat.toDigits 10 d
  let exponent := intText (k + (digits.length - 1 : Nat))
  match digits with
  | first :: rest =>
    first.toString ++ (if rest.isEmpty then "" else "." ++ String.ofList rest) ++ "e" ++ exponent
  | [] => ""

/-- The digits of a finite number in a listing for developers: positional with a fraction from
`10^(-4)` on and below `10^16`, and with an exponent elsewhere. -/
def listingDigits (m : Nat) (e : Int) : String :=
  let (d, k) := shortest m e
  let leading := k + ((Nat.toDigits 10 d).length - 1 : Nat)
  if m = 0 then "0.0"
  else if leading < -4 ∨ 16 ≤ leading then scientific d k
  else if 0 ≤ k then positional d k ++ ".0"
  else positional d k

/-- The text of a number in a listing for developers, which keeps the sign of zero. -/
def listing (d : Float) : String :=
  match exact d with
  | .nan => "NaN"
  | .infinite s => if s then "-inf" else "inf"
  | .dyadic s m e => (if s then "-" else "") ++ listingDigits m e

end AdaptiveTree.Number
