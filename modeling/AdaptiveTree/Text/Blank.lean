import AdaptiveTree.Text.Ranges

/-!
# Blank characters

A blank is a character with the Unicode property White_Space. A numeric spelling may stand between
blanks, and the class of blanks is one of the classes that a pattern can name.
-/

set_option autoImplicit false

namespace AdaptiveTree.Text

/-- Code points with the property White_Space. -/
def blankRanges : Ranges :=
  #[(0x9, 0xD), (0x20, 0x20), (0x85, 0x85), (0xA0, 0xA0), (0x1680, 0x1680), (0x2000, 0x200A),
    (0x2028, 0x2029), (0x202F, 0x202F), (0x205F, 0x205F), (0x3000, 0x3000)]

/-- Whether `c` is a blank. -/
def isBlank (c : Char) : Bool :=
  blankRanges.holds c

/-- The characters of `cs` without the blanks at both ends. -/
def trimBlanks (cs : List Char) : List Char :=
  ((cs.dropWhile isBlank).reverse.dropWhile isBlank).reverse

end AdaptiveTree.Text
