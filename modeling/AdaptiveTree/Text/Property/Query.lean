import AdaptiveTree.Text.Property.Age
import AdaptiveTree.Text.Property.ScriptExtension
import AdaptiveTree.Text.Property.Segmentation

/-!
# Asking for a property

A property is asked for by its name, or by a name and a value. Names are read loosely: case, spaces,
hyphens and underscores do not matter, nor does a leading `is`.
-/

set_option autoImplicit false

namespace AdaptiveTree.Text.Property

/-- What a name loses when it is read loosely. -/
def isSilent (c : Char) : Bool :=
  c == ' ' || c == '_' || c == '-' || 128 ≤ c.toNat

/-- Whether the name begins with `is`, in capitals or not. -/
def startsWithIs : List Char → Bool
  | a :: b :: _ => a.toLower == 'i' && b.toLower == 's'
  | _ => false

/-- The loose form of a name. The name `isc` keeps its first letters, since it means a comment and
not the category `C`. -/
def looseName (name : List Char) : String :=
  let body := if startsWithIs name then name.drop 2 else name
  let loose := (body.filter fun c => !isSilent c).map Char.toLower
  if startsWithIs name && loose == ['c'] then "isc" else String.ofList loose

/-- A question for a set of characters. -/
inductive Query where
  | named (name : List Char)
  | valued (name value : List Char)
deriving DecidableEq, Repr

/-- The characters with the property, or of the category or script, that a loose name means. Three
names that a property has in common with a category mean the category. -/
def ofName? (name : String) : Option Ranges :=
  let binary :=
    if name = "cf" ∨ name = "sc" ∨ name = "lc" then none
    else (listed? name).or (derived? name)
  (binary.or (categoryNamed? name)).or (script? name)

/-- The characters for which the property that a loose name means has the value that another loose
name means. -/
def ofValue? (name value : String) : Option Ranges :=
  match name with
  | "generalcategory" | "gc" => categoryNamed? value
  | "script" | "sc" => script? value
  | "scriptextensions" | "scx" => scriptExtension? value
  | "age" => age? value
  | "graphemeclusterbreak" | "gcb" => characterBreak? value
  | "wordbreak" | "wb" => wordBreak? value
  | "sentencebreak" | "sb" => sentenceBreak? value
  | _ => none

/-- The characters that a question asks for; none when it names nothing. -/
def Query.answer? : Query → Option Ranges
  | .named name => ofName? (looseName name)
  | .valued name value => ofValue? (looseName name) (looseName value)

end AdaptiveTree.Text.Property
