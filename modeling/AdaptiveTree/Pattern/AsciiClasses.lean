/-!
# ASCII class escapes

Without the flag `u` the escapes for digits, word characters and word boundaries cover ASCII only.
They are spelled out before the pattern is read. Inside a bracket expression only the escapes for
classes are spelled out, without brackets of their own unless they are complements. Brackets are
followed without nesting: the first closing bracket ends the expression.
-/

set_option autoImplicit false

namespace AdaptiveTree.Pattern

/-- What an escape is spelled out to, inside or outside a bracket expression; none when it is kept
as it is. -/
def asciiForm (inClass : Bool) (c : Char) : Option String :=
  match c, inClass with
  | 'd', false => some "[0-9]"
  | 'D', false => some "[^0-9]"
  | 'w', false => some "[0-9A-Za-z_]"
  | 'W', false => some "[^0-9A-Za-z_]"
  | 'b', false => some "(?-u:\\b)"
  | 'B', false => some "(?-u:\\B)"
  | 'd', true => some "0-9"
  | 'D', true => some "[^0-9]"
  | 'w', true => some "0-9A-Za-z_"
  | 'W', true => some "[^0-9A-Za-z_]"
  | _, _ => none

/-- Spells out the escapes of a pattern whose reading is inside a bracket expression or not. -/
def asciiClassesFrom : Bool → List Char → List Char
  | _, [] => []
  | _, ['\\'] => ['\\']
  | inClass, '\\' :: c :: cs =>
    match asciiForm inClass c with
    | some form => form.toList ++ asciiClassesFrom inClass cs
    | none => '\\' :: c :: asciiClassesFrom inClass cs
  | false, '[' :: cs => '[' :: asciiClassesFrom true cs
  | true, ']' :: cs => ']' :: asciiClassesFrom false cs
  | inClass, c :: cs => c :: asciiClassesFrom inClass cs

/-- The pattern with its escapes spelled out. -/
def asciiClasses (source : String) : String :=
  String.ofList (asciiClassesFrom false source.toList)

end AdaptiveTree.Pattern
