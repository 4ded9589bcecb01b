import AdaptiveTree.Number.Exact
import AdaptiveTree.Text.Blank

/-!
# Numeric spellings

The number that a text spells. Blanks around the spelling are ignored. It is then empty (zero), a
named infinity, a hexadecimal natural number below `2^64`, or a decimal with an optional fraction
and an optional exponent. Any other text spells no number.
-/

set_option autoImplicit false

namespace AdaptiveTree.Number

/-- Value of a hexadecimal digit. -/
def hexValue? (c : Char) : Option Nat :=
  if '0' ≤ c ∧ c ≤ '9' then some (c.toNat - 48)
  else if 'a' ≤ c ∧ c ≤ 'f' then some (c.toNat - 87)
  else if 'A' ≤ c ∧ c ≤ 'F' then some (c.toNat - 55)
  else none

/-- The number that a sequence of digits denotes in base `base`, continuing from `acc`; none when a
character is not a digit of `value`. -/
def foldDigits (value : Char → Option Nat) (base : Nat) : Nat → List Char → Option Nat
  | acc, [] => some acc
  | acc, c :: cs =>
    match value c with
    | some v => foldDigits value base (acc * base + v) cs
    | none => none

/-- A natural number below `2^64` in hexadecimal, with an optional plus sign. -/
def readHex? (cs : List Char) : Option Nat :=
  let digits := if cs.head? = some '+' then cs.tail else cs
  if digits.isEmpty then none
  else
    (foldDigits hexValue? 16 0 digits).bind fun n =>
      if n < 18446744073709551616 then some n else none

/-- Value of a decimal digit. -/
def digitValue? (c : Char) : Option Nat :=
  if c.isDigit then some (c.toNat - 48) else none

/-- The natural number that a possibly empty sequence of decimal digits denotes. -/
def digitsValue (cs : List Char) : Nat :=
  cs.foldl (fun acc c => acc * 10 + (c.toNat - 48)) 0

/-- Takes a sign off the front: whether it is a minus sign, and the rest. -/
def takeSign : List Char → Bool × List Char
  | '-' :: cs => (true, cs)
  | '+' :: cs => (false, cs)
  | cs => (false, cs)

/-- An exponent part that fills the whole text: nothing, or `e` or `E` with an optional sign and at
least one digit. -/
def readExponent? : List Char → Option Int
  | [] => some 0
  | c :: cs =>
    if c = 'e' ∨ c = 'E' then
      let (negative, digits) := takeSign cs
      if digits.isEmpty ∨ ¬ digits.all Char.isDigit then none
      else if negative then some (-(digitsValue digits : Int))
      else some (digitsValue digits : Int)
    else none

/-- The double nearest to `digits · 10^exponent`. -/
def ofDecimal (digits : Nat) (exponent : Int) : Float :=
  .ofModel (.ofScientific digits exponent)

/-- An unsigned decimal: digits with an optional fraction, or a fraction alone, and an optional
exponent. -/
def readUnsigned? (cs : List Char) : Option Float :=
  let whole := cs.takeWhile Char.isDigit
  let rest := cs.dropWhile Char.isDigit
  let (fraction, rest) :=
    match rest with
    | '.' :: more => (more.takeWhile Char.isDigit, more.dropWhile Char.isDigit)
    | _ => ([], rest)
  if whole.isEmpty ∧ fraction.isEmpty then none
  else
    (readExponent? rest).map fun e =>
      ofDecimal (digitsValue (whole ++ fraction)) (e - fraction.length)

/-- An infinity or the double that is not a number, by its name in any case. -/
def readName? (cs : List Char) : Option Float :=
  let name := cs.map Char.toLower
  if name = "inf".toList ∨ name = "infinity".toList then some (infinity false)
  else if name = "nan".toList then some nan
  else none

/-- What the library reads as a double: a name or an unsigned decimal, after an optional sign. A
minus sign also makes a negative zero. -/
def readFloat? (cs : List Char) : Option Float :=
  let (negative, rest) := takeSign cs
  ((readName? rest).or (readUnsigned? rest)).map fun d => if negative then -d else d

/-- Whether `part` stands somewhere in a text. -/
def hasPart (part : List Char) : List Char → Bool
  | [] => part.isEmpty
  | c :: cs => part.isPrefixOf (c :: cs) || hasPart part cs

/-- Whether a text has `inf` or `nan` in it, in any case, as the names of the library have. -/
def hasName (cs : List Char) : Bool :=
  let lower := cs.map Char.toLower
  hasPart "inf".toList lower || hasPart "nan".toList lower

/-- A decimal with an optional sign. The library reads names as well, so texts that may have one in
them are held back. -/
def readDecimal? (cs : List Char) : Option Float :=
  if hasName cs then none else readFloat? cs

/-- The number that a trimmed spelling denotes. -/
def readTrimmed? (cs : List Char) : Option Float :=
  if cs = [] then some (ofInt 0)
  else if cs = "Infinity".toList ∨ cs = "+Infinity".toList then some (infinity false)
  else if cs = "-Infinity".toList then some (infinity true)
  else
    match cs with
    | '0' :: x :: hex =>
      if x = 'x' ∨ x = 'X' then (readHex? hex).map fun n => nearest false n 0
      else readDecimal? cs
    | _ => readDecimal? cs

/-- The number that the text `s` spells; a text that spells none reads as not a number. -/
def read (s : String) : Float :=
  (readTrimmed? (Text.trimBlanks s.toList)).getD nan

end AdaptiveTree.Number
