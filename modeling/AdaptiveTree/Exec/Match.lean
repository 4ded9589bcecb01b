import AdaptiveTree.Exec.Channel

/-!
# Evaluating pattern matches

A pattern match gives an array of the whole match and its groups with the offset of the match as its
property `index`, or null.
-/

set_option autoImplicit false

namespace AdaptiveTree

/-- The offset that a number stands for as the start of a search: a negative one and what is not a
number stand for zero, a fraction is cut off, and infinity stands for none. -/
def Number.offset? (d : Float) : Option Nat :=
  match exact d with
  | .nan => some 0
  | .infinite negative => if negative then some 0 else none
  | .dyadic true _ _ => some 0
  | .dyadic false m (.ofNat e) => some (m <<< e)
  | .dyadic false m (.negSucc e) => some (m >>> (e + 1))

namespace Match

/-- The texts of the whole match and its groups; a group that took no part is undefined. -/
def groupValues (subject : String) (m : Pattern.Match) : List Value :=
  (List.range (m.captureCount + 1)).map fun i =>
    match (m.group? i).bind (Pattern.slice? subject) with
    | some s => .string s
    | none => .undefined

/-- The array that a match gives. -/
def result (subject : String) (m : Pattern.Match) : Except Fault Object :=
  (Object.array (groupValues subject m)).put (.name "index")
    (Value.number (Number.ofInt m.whole.1)) {}

/-- Adds an object to the heap and gives it as a value. -/
def allocate (o : Object) : Exec Value := fun m =>
  (.ok (.object (m.heap.alloc o).1), { m with heap := (m.heap.alloc o).2 })

/-- The pattern that a value must be. -/
def patternOf (v : Value) : Exec Pattern :=
  match v with
  | .pattern p => return p.value
  | _ => do Exec.fail (.notPattern (← Exec.read fun m => m.heap.display v))

/-- The evaluation of a pattern match. -/
def runner (pattern subject start : Runner) : Runner :=
  .ofGeneric do
    let p ← patternOf (← pattern.generic)
    let s ← subject.generic
    let text ← Exec.read fun m => m.heap.display s
    let position ← start.generic
    match (Number.offset? position.toNumber).bind (p.run text) with
    | none => return .null
    | some found =>
      let o ← Exec.ofExcept (result text found)
      allocate o

end Match

end AdaptiveTree
