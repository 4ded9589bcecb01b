import AdaptiveTree.Regex.CharClass

/-!
# Classes as sequences of bytes

An automaton reads bytes. A range of characters becomes a list of sequences of byte ranges: a
character belongs to the range when its bytes lie in the ranges of one of the sequences. To have
this, a range is cut until all its characters have the same number of bytes and all but the last
differing byte run through all their values.
-/

set_option autoImplicit false

namespace AdaptiveTree.Regex

/-- A closed range of bytes. -/
abbrev ByteRange := Nat × Nat

/-- The greatest code point that is written in the given number of bytes. -/
def greatestOfLength (n : Nat) : Nat :=
  match n with
  | 1 => 0x7F
  | 2 => 0x7FF
  | 3 => 0xFFFF
  | _ => 0x10FFFF

/-- A cut of a range of code points that all have the same number of bytes: the code point after
which it is cut. `bits` is the number of low bits that the last bytes hold. -/
def cutByBits? (first last : Nat) (bits : Nat) : Option Nat :=
  let mask := (1 <<< bits) - 1
  if first >>> bits = last >>> bits then none
  else if first &&& mask ≠ 0 then some (first ||| mask)
  else if last &&& mask ≠ mask then some ((last >>> bits <<< bits) - 1)
  else none

/-- Where a range of code points is cut first, if it is no single sequence: between the lengths of
the encoding, and then where a byte does not run through all its values. -/
def cut? (first last : Nat) : Option Nat :=
  match [1, 2, 3].find? fun n => first ≤ greatestOfLength n && greatestOfLength n < last with
  | some n => some (greatestOfLength n)
  | none => if last < 0x80 then none else [6, 12, 18].findSome? (cutByBits? first last)

/-- The bytes of a code point. -/
def bytesOf (n : Nat) : List Nat :=
  if n ≤ 0x7F then [n]
  else if n ≤ 0x7FF then [0xC0 + n / 0x40, 0x80 + n % 0x40]
  else if n ≤ 0xFFFF then [0xE0 + n / 0x1000, 0x80 + n / 0x40 % 0x40, 0x80 + n % 0x40]
  else
    [0xF0 + n / 0x40000, 0x80 + n / 0x1000 % 0x40, 0x80 + n / 0x40 % 0x40, 0x80 + n % 0x40]

/-- The sequences of a range of code points without surrogates, in order, after at most `fuel` cuts
within each other. -/
def sequencesWithin : Nat → Nat → Nat → List (List ByteRange)
  | 0, _, _ => []
  | fuel + 1, first, last =>
    match cut? first last with
    | some n => sequencesWithin fuel first n ++ sequencesWithin fuel (n + 1) last
    | none => [(bytesOf first).zip (bytesOf last)]

/-- The sequences of a range of code points; the surrogates in it are left out. -/
def sequencesOfRange (r : Nat × Nat) : List (List ByteRange) :=
  if r.1 < 0xE000 && 0xD7FF < r.2 then
    sequencesWithin 32 r.1 0xD7FF ++ sequencesWithin 32 0xE000 r.2
  else sequencesWithin 32 r.1 r.2

/-- The sequences of a class, in order. -/
def CharClass.sequences (k : CharClass) : List (List ByteRange) :=
  k.toList.flatMap sequencesOfRange

end AdaptiveTree.Regex
