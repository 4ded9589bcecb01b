import AdaptiveTree.Text.Blank
import AdaptiveTree.Text.CaseFold
import AdaptiveTree.Text.WordCharacter

/-!
# Classes of characters

A class is a set of characters, kept as a table of ranges in order, so that equal classes are equal
tables. Ignoring case closes a class under the case variants of its members.
-/

set_option autoImplicit false

namespace AdaptiveTree.Regex

open AdaptiveTree.Text (Ranges)

/-- A set of characters. -/
abbrev CharClass := Ranges

namespace CharClass

/-- The class without members. -/
def none : CharClass := #[]

/-- The class of all characters. -/
def any : CharClass := #[(0, Ranges.greatest)]

/-- The class of one character. -/
def single (c : Char) : CharClass := #[(c.toNat, c.toNat)]

/-- Whether `c` belongs to the class. -/
def holds (k : CharClass) (c : Char) : Bool :=
  Ranges.contains k c.toNat

/-- Whether all members are ASCII characters. -/
def isAscii (k : CharClass) : Bool :=
  k.all fun r => r.2 < 128

/-- The part of a range between `first` and `last`, moved to start at `target` instead. -/
def shifted (first last target : Nat) (r : Nat × Nat) : Option (Nat × Nat) :=
  let a := max r.1 first
  let b := min r.2 last
  if a ≤ b then some (a - first + target, b - first + target) else Option.none

/-- The class closed under the case variants of ASCII letters. -/
def closeUnderAsciiCase (k : CharClass) : CharClass :=
  Ranges.unionAll
    [k, k.filterMap (shifted 65 90 97), k.filterMap (shifted 97 122 65)]

end CharClass

end AdaptiveTree.Regex
