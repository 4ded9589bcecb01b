import AdaptiveTree.Object.Basic
import AdaptiveTree.Text.Quoted

/-!
# The heap

All objects, by number. The text of an array is made of the texts of its elements, so it needs the
heap. An array that holds itself has no text: the depth of the arrays that are entered is bounded by
the number of objects, which no array without cycles exceeds.
-/

set_option autoImplicit false

namespace AdaptiveTree

/-- The objects by number. -/
structure Heap where
  objects : Array Object

namespace Heap

/-- No objects. -/
def empty : Heap := ⟨#[]⟩

/-- The object with the given number. -/
def get (h : Heap) (id : Nat) : Object :=
  h.objects.getD id default

/-- Replaces an object. -/
def set (h : Heap) (id : Nat) (o : Object) : Heap :=
  ⟨h.objects.setIfInBounds id o⟩

/-- Adds an object and tells its number. -/
def alloc (h : Heap) (o : Object) : Nat × Heap :=
  (h.objects.size, ⟨h.objects.push o⟩)

@[simp] theorem size_set (h : Heap) (id : Nat) (o : Object) :
    (h.set id o).objects.size = h.objects.size := by
  simp [set]

@[simp] theorem size_alloc (h : Heap) (o : Object) :
    (h.alloc o).2.objects.size = h.objects.size + 1 := by
  simp [alloc]

theorem get_of_size_le {h : Heap} {id : Nat} (hid : h.objects.size ≤ id) : h.get id = default := by
  simp [get, hid]

theorem get_set (h : Heap) (id j : Nat) (o : Object) (hj : j < h.objects.size) :
    (h.set id o).get j = if id = j then o else h.get j := by
  simp only [get, set, Array.getD_eq_getD_getElem?, Array.getElem?_setIfInBounds]
  by_cases hid : id = j
  · simp [hid, hj]
  · simp [hid]

theorem get_alloc (h : Heap) (o : Object) (j : Nat) :
    (h.alloc o).2.get j = if j = h.objects.size then o else h.get j := by
  simp only [get, alloc, Array.getD_eq_getD_getElem?, Array.getElem?_push]
  split <;> rfl

/-- The text of a value that is not an object. -/
def plainText : Value → String
  | .undefined => "undefined"
  | .null => "null"
  | .bool b => if b then "true" else "false"
  | .int i => Number.intText i.toInt
  | .double d => Number.text d
  | .string s => s
  | .object _ => "[object Object]"
  | .pattern p => p.value.text
  | .listFormat _ => "[object Intl.ListFormat]"

/-- The text of a value that enters at most `depth` arrays inside each other; none when that is not
enough. Holes and nullish elements of an array have an empty text. -/
def render? (h : Heap) : Nat → Value → Option String
  | depth, .object id =>
    match (h.get id).kind, depth with
    | .ordinary, _ => some (plainText (.object id))
    | .array, 0 => none
    | .array, depth + 1 =>
      let texts := (h.get id).elements.toList.mapM fun e =>
        match e with
        | none => some ""
        | some v => if v.isNullish then some "" else h.render? depth v
      texts.map fun ts => String.intercalate "," ts
  | _, v => some (plainText v)

/-- The text of a value. -/
def display (h : Heap) (v : Value) : String :=
  (h.render? (h.objects.size + 1) v).getD ""

/-- The text of a value, with texts quoted. -/
def inspect (h : Heap) : Value → String
  | .string s => Text.quote s
  | v => h.display v

/-- The key that a value addresses. -/
def key (h : Heap) : Value → Key
  | .int i => .ofInt i
  | .double d => .ofDouble d
  | .string s => .ofString s
  | v => .ofString (h.display v)

end Heap

end AdaptiveTree
