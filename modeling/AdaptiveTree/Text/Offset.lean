/-!
# Byte offsets

Positions in a subject are counted in bytes of its UTF-8 form. A position is usable only where a
character begins or the text ends.
-/

set_option autoImplicit false

namespace AdaptiveTree.Text

/-- The byte offset at which each character of `cs` begins, followed by the offset of the end;
`start` is the offset of the first. -/
def byteOffsetsFrom (start : Nat) : List Char → List Nat
  | [] => [start]
  | c :: rest => start :: byteOffsetsFrom (start + c.utf8Size) rest

/-- Byte offsets of all character boundaries of `cs`, the end included. -/
def byteOffsets (cs : List Char) : Array Nat :=
  (byteOffsetsFrom 0 cs).toArray

/-- Number of characters before byte offset `offset`, if a character begins or the text ends
there. -/
def charIndex? (cs : List Char) (offset : Nat) : Option Nat :=
  (byteOffsets cs).findIdx? (· == offset)

end AdaptiveTree.Text
