import AdaptiveTree.Text.Quoted
import AdaptiveTree.Value

/-!
# Frames

The local values of one activation, by slot. A slot that was never written reads as undefined, and
writing past the end makes the frame longer. A layout hands out slots: one for each name, and a new
one for each temporary.
-/

set_option autoImplicit false

namespace AdaptiveTree

/-- The local values of one activation. -/
structure Frame where
  slots : Array Value

namespace Frame

/-- A frame of undefined values. -/
def ofSize (size : Nat) : Frame :=
  ⟨Array.replicate size .undefined⟩

/-- A frame whose first slots hold the arguments. -/
def ofArgs (size : Nat) (args : List Value) : Frame :=
  ⟨args.toArray ++ Array.replicate (size - args.length) .undefined⟩

/-- The value of a slot. -/
def get (f : Frame) (slot : Nat) : Value :=
  f.slots.getD slot .undefined

/-- Writes a slot. -/
def set (f : Frame) (slot : Nat) (v : Value) : Frame :=
  if slot < f.slots.size then ⟨f.slots.setIfInBounds slot v⟩
  else ⟨(f.slots ++ Array.replicate (slot - f.slots.size) Value.undefined).push v⟩

/-- Number of slots. -/
def size (f : Frame) : Nat :=
  f.slots.size

end Frame

/-- A value that is not an object in a listing for developers. -/
def Value.listing : Value → String
  | .undefined => "Undefined"
  | .null => "Null"
  | .bool b => "Bool(" ++ (if b then "true" else "false") ++ ")"
  | .int i => "Int(" ++ Number.intText i.toInt ++ ")"
  | .double d => "Double(" ++ Number.listing d ++ ")"
  | .string s => "String(" ++ Text.quote s ++ ")"
  | .object _ => "Object(..)"
  | .pattern _ => "Pattern(..)"
  | .listFormat _ => "ListFormat(..)"

/-- A frame as a listing for developers, with the setting for the typed channels. -/
def Frame.listing (f : Frame) (speculating : Bool) : String :=
  "Frame \x7b speculating: " ++ (if speculating then "true" else "false") ++ ", slots: [" ++
    String.intercalate ", " (f.slots.toList.map Value.listing) ++ "] \x7d"

/-- The text of a slot number. -/
def slotText (slot : Nat) : String :=
  "$" ++ Number.intText slot

/-- The slots handed out for one routine: their names in order, and the number of temporaries. -/
structure Layout where
  names : Array String := #[]
  temps : Nat := 0

namespace Layout

/-- The slot of a name. -/
def find? (l : Layout) (name : String) : Option Nat :=
  l.names.findIdx? (· == name)

/-- The name of a slot. -/
def name? (l : Layout) (slot : Nat) : Option String :=
  l.names[slot]?

/-- Number of slots. -/
def size (l : Layout) : Nat :=
  l.names.size

/-- The slot of a name, which is a new one if the name is new. -/
def addSlot (l : Layout) (name : String) : Nat × Layout :=
  match l.find? name with
  | some slot => (slot, l)
  | none => (l.size, { l with names := l.names.push name })

/-- The name of the temporary with the given number. -/
def tempName (n : Nat) : String :=
  ":tmp" ++ Number.intText n

/-- A new slot for a temporary. -/
def addTemp (l : Layout) : Nat × Layout :=
  (l.size, { names := l.names.push (tempName l.temps), temps := l.temps + 1 })

end Layout

end AdaptiveTree
