import AdaptiveTree.Text.Newcomer
import AdaptiveTree.Text.Property.Derived

/-!
# Characters that have no visible form of their own

A quoted text shows these characters by their code point: controls, formats, spaces but the common
one, private and unassigned characters, fillers, and characters that attach to the one before them.
The two sound marks of half width are shown as they are, though they attach to a letter.
-/

set_option autoImplicit false

namespace AdaptiveTree.Text

/-- Characters that take no ink. -/
def inklessRanges : Ranges :=
  (Property.categories ["Cc", "Cf", "Cn", "Co", "Zl", "Zp", "Zs"]).difference
    (Newcomer.all.union #[(0x20, 0x20)])

/-- Letters that fill an empty place. -/
def fillerRanges : Ranges :=
  Property.defaultIgnorable.intersection (Property.category "Lo")

/-- Characters that attach to the one before them. -/
def extendingRanges : Ranges :=
  (Property.graphemeExtend.union Newcomer.extending).difference #[(0xFF9E, 0xFF9F)]

/-- All characters that are shown by their code point. -/
def unprintableRanges : Ranges :=
  Ranges.unionAll [inklessRanges, fillerRanges, extendingRanges]

/-- Whether `c` is shown by its code point in a quoted text. -/
def isUnprintable (c : Char) : Bool :=
  unprintableRanges.contains c.toNat

end AdaptiveTree.Text
