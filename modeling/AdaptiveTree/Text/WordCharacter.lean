import AdaptiveTree.Text.Property.Derived

/-!
# Word characters

A word character is alphabetic, a mark, a decimal digit, a connector or a joiner. Word boundaries
of patterns in Unicode mode are defined by this property.
-/

set_option autoImplicit false

namespace AdaptiveTree.Text

/-- All word characters. -/
def wordRanges : Ranges :=
  Property.word

/-- The decimal digits of all scripts. -/
def digitRanges : Ranges :=
  Property.category "Nd"

/-- Whether `c` is a word character. -/
def isWordCharacter (c : Char) : Bool :=
  wordRanges.contains c.toNat

/-- Whether `c` is an ASCII word character: a letter, a digit or the underscore. -/
def isAsciiWordCharacter (c : Char) : Bool :=
  c.isAlphanum || c == '_'

end AdaptiveTree.Text
