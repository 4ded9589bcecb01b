import AdaptiveTree.Text.Newcomer
import AdaptiveTree.Text.Property.Derived

/-!
# Letters and numbers

What may stand in the name of a group: letters of any script, and numbers after the first character.
-/

set_option autoImplicit false

namespace AdaptiveTree.Text

/-- Letters and parts of letters. -/
def alphabeticRanges : Ranges :=
  Property.alphabetic.union Newcomer.alphabetic

/-- Letters, parts of letters and numbers of any kind. -/
def alphanumericRanges : Ranges :=
  Ranges.unionAll
    [alphabeticRanges, Property.categories ["Nd", "Nl", "No"], Newcomer.numeric]

/-- Whether `c` is a letter or a part of one. -/
def isAlphabetic (c : Char) : Bool :=
  alphabeticRanges.contains c.toNat

/-- Whether `c` is a letter, a part of one, or a number of any kind. -/
def isAlphanumeric (c : Char) : Bool :=
  alphanumericRanges.contains c.toNat

end AdaptiveTree.Text
