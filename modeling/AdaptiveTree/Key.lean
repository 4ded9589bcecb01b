import AdaptiveTree.Number.Reading
import AdaptiveTree.Number.Text

/-!
# Property keys

A property is addressed by an array index or by a name. The text of an index written in decimal
without leading zeros is that index and not a name, so that each property has one key.
-/

set_option autoImplicit false

namespace AdaptiveTree

/-- A property key. -/
inductive Key where
  | index (i : UInt32)
  | name (s : String)
deriving DecidableEq, Repr

namespace Key

/-- The greatest array index. -/
def maxIndex : Nat := 4294967294

/-- The array index that a text is the decimal form of. -/
def parseIndex? (s : String) : Option UInt32 :=
  let cs := s.toList
  if cs.isEmpty || 10 < cs.length || !cs.all Char.isDigit then none
  else if 1 < cs.length && cs.head? == some '0' then none
  else
    let n := Number.digitsValue cs
    if n ≤ maxIndex then some (UInt32.ofNat n) else none

/-- The key of an integer; a negative one is a name. -/
def ofInt (i : Int32) : Key :=
  if 0 ≤ i.toInt then .index (UInt32.ofNat i.toInt.toNat) else .name (Number.intText i.toInt)

/-- The key of a number. Integers in the range of indices are indices, negative zero included. -/
def ofDouble (d : Float) : Key :=
  match Number.integer? d with
  | some n => if 0 ≤ n ∧ n ≤ maxIndex then .index (UInt32.ofNat n.toNat) else .name (Number.text d)
  | none => .name (Number.text d)

/-- The key of a text. -/
def ofString (s : String) : Key :=
  match parseIndex? s with
  | some i => .index i
  | none => .name s

/-- The text of an index. -/
def indexText (i : UInt32) : String :=
  Number.intText i.toNat

/-- The text of a key. -/
def text : Key → String
  | .index i => indexText i
  | .name s => s

/-- The index of a key that is one. -/
def index? : Key → Option UInt32
  | .index i => some i
  | .name _ => none

end Key

end AdaptiveTree
