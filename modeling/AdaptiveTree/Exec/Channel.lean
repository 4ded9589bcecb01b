import AdaptiveTree.Exec.Machine

/-!
# Channels

A node can be evaluated on three channels. The generic channel gives a value. The typed channels
give an integer or a double directly; when the value does not fit, they give the value that was
computed in its place.
-/

set_option autoImplicit false

namespace AdaptiveTree

/-- The result of a typed channel. -/
inductive Speculated (α : Type) where
  | exact (a : α)
  | unexpected (v : Value)

namespace Speculated

/-- Fits a value to the integer channel. -/
def ofIntValue : Value → Speculated Int32
  | .int i => .exact i
  | v => .unexpected v

/-- Fits a value to the double channel; an integer is widened. -/
def ofDoubleValue (v : Value) : Speculated Float :=
  match v.asDouble? with
  | some d => .exact d
  | none => .unexpected v

/-- The value that the integer channel gave. -/
def intValue : Speculated Int32 → Value
  | .exact i => .int i
  | .unexpected v => v

/-- The value that the double channel gave. -/
def doubleValue : Speculated Float → Value
  | .exact d => .double d
  | .unexpected v => v

end Speculated

/-- The evaluation of a node on each channel. -/
structure Runner where
  generic : Exec Value
  int : Exec (Speculated Int32)
  double : Exec (Speculated Float)

namespace Runner

/-- A runner that has a generic evaluation only: the typed channels fit its value. -/
def ofGeneric (x : Exec Value) : Runner where
  generic := x
  int := do return .ofIntValue (← x)
  double := do return .ofDoubleValue (← x)

/-- Stores what is computed into a local slot. -/
def write (slot : Nat) (value : Runner) : Runner where
  generic := do
    let v ← value.generic
    Exec.setLocal slot v
    return v
  int := do
    let r ← value.int
    Exec.setLocal slot r.intValue
    return r
  double := do
    let r ← value.double
    Exec.setLocal slot r.doubleValue
    return r

/-- Reports the evaluation if events are recorded. -/
def tagged (env : Env) (about : Meta) (child : Runner) : Runner :=
  if env.recording then
    { generic := Exec.reporting about id child.generic
      int := Exec.reporting about Speculated.intValue child.int
      double := Exec.reporting about Speculated.doubleValue child.double }
  else child

/-- Evaluates one after the other; the last gives the result. -/
def sequence : List Runner → Runner
  | [] =>
    { generic := return .undefined
      int := return .unexpected .undefined
      double := return .unexpected .undefined }
  | [last] => last
  | first :: rest =>
    { generic := do
        let _ ← first.generic
        (sequence rest).generic
      int := do
        let _ ← first.generic
        (sequence rest).int
      double := do
        let _ ← first.generic
        (sequence rest).double }

end Runner

end AdaptiveTree
