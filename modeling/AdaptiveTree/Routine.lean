import AdaptiveTree.Exec.Run
import AdaptiveTree.Node.Instrument

/-!
# Routines

A routine is a tree with the size of its frames, what it has learnt so far, and the greatest number
of invalidations that a call of it ended with. All activations of a routine share what it learns.
-/

set_option autoImplicit false

namespace AdaptiveTree

/-- What activations share besides their routine: the objects, the number of invalidations, the
events in order, and the number of list formats made. -/
structure World where
  heap : Heap := .empty
  epoch : Nat := 0
  trace : List Event := []
  formats : Nat := 0

/-- A routine. -/
structure Routine where
  root : Node
  frameSize : Nat
  profile : Profile
  observed : Nat

namespace Routine

/-- A routine that has learnt nothing, made when `epoch` invalidations had been counted. -/
def ofRoot (root : Node) (frameSize epoch : Nat) : Routine :=
  ⟨root, frameSize, .empty, epoch⟩

/-- The routine with another tree, which has learnt nothing. -/
def withRoot (r : Routine) (root : Node) (epoch : Nat) : Routine :=
  .ofRoot root r.frameSize epoch

/-- The state in which an activation starts. -/
def machine (r : Routine) (w : World) (frame : Frame) : Machine :=
  ⟨w.heap, frame, r.profile, w.epoch, w.trace, w.formats⟩

/-- What an activation leaves: its outcome, its frame, the routine and the world. -/
structure Outcome (α : Type) where
  result : Except Fault α
  frame : Frame
  routine : Routine
  world : World

/-- Runs a computation of the routine on a frame. -/
def activate {α : Type} (r : Routine) (w : World) (frame : Frame) (x : Exec α) : Outcome α :=
  let (result, m) := x (r.machine w frame)
  { result, frame := m.frame
    routine := { r with profile := m.profile }
    world := ⟨m.heap, m.epoch, m.trace, m.formats⟩ }

/-- Calls the routine: evaluates its tree on a new frame, and notes the number of invalidations at
the end. -/
def call (env : Env) (r : Routine) (w : World) (args : List Value) : Outcome Value :=
  let o := r.activate w (.ofArgs r.frameSize args) (r.root.runner env 0).generic
  { o with routine := { o.routine with observed := max r.observed o.world.epoch } }

/-- Calls the routine once for each list of arguments, one call after the other. -/
def callAll (env : Env) (r : Routine) (w : World) :
    List (List Value) → List (Except Fault Value) × Routine × World
  | [] => ([], r, w)
  | args :: rest =>
    let o := r.call env w args
    let (results, r, w) := o.routine.callAll env o.world rest
    (o.result :: results, r, w)

end Routine

end AdaptiveTree
