import AdaptiveTree.Locale.Making
import AdaptiveTree.Node.Basic
import AdaptiveTree.Profile

/-!
# The machine

The state that evaluation changes, and the computations on it. A computation ends with a result or
with a fault, and in both cases with a state: what was done before a fault stays done.
-/

set_option autoImplicit false

namespace AdaptiveTree

/-- What a reporting node tells: that its child is entered, or left with a value or by a fault. -/
inductive Event where
  | enter (m : Meta)
  | leave (m : Meta) (v : Value)
  | fail (m : Meta) (f : Fault)

/-- The event that tells how the evaluation of the child ended. -/
def Event.closing (m : Meta) : Except Fault Value → Event
  | .ok v => .leave m v
  | .error f => .fail m f

/-- The state of evaluation: objects, local values, observations, the number of invalidations, the
events reported so far in order, and the number of list formats made. -/
structure Machine where
  heap : Heap
  frame : Frame
  profile : Profile
  epoch : Nat
  trace : List Event
  formats : Nat

/-- What evaluation depends on and never changes: whether the typed channels may be used, whether
events are recorded, and the locales. -/
structure Env where
  speculating : Bool
  recording : Bool
  locales : Locale.Data

/-- A computation on the machine. -/
def Exec (α : Type) : Type :=
  Machine → Except Fault α × Machine

namespace Exec

variable {α β : Type}

/-- Runs `x` and then `f` on its result; a fault of `x` skips `f`. -/
def andThen (x : Exec α) (f : α → Exec β) : Exec β := fun m =>
  match x m with
  | (.ok a, m) => f a m
  | (.error e, m) => (.error e, m)

instance : Monad Exec where
  pure a := fun m => (.ok a, m)
  bind := andThen

/-- Fails. -/
def fail (e : Fault) : Exec α := fun m => (.error e, m)

/-- The result of a computation that does not touch the machine. -/
def ofExcept (x : Except Fault α) : Exec α := fun m => (x, m)

/-- Reads something off the machine. -/
def read (f : Machine → α) : Exec α := fun m => (.ok (f m), m)

/-- Changes the machine. -/
def modify (f : Machine → Machine) : Exec Unit := fun m => (.ok (), f m)

@[simp] theorem pure_apply (a : α) (m : Machine) : (pure a : Exec α) m = (.ok a, m) := rfl

@[simp] theorem fail_apply (e : Fault) (m : Machine) : (fail e : Exec α) m = (.error e, m) := rfl

@[simp] theorem ofExcept_apply (x : Except Fault α) (m : Machine) : ofExcept x m = (x, m) := rfl

@[simp] theorem read_apply (f : Machine → α) (m : Machine) : read f m = (.ok (f m), m) := rfl

@[simp] theorem modify_apply (f : Machine → Machine) (m : Machine) :
    modify f m = (.ok (), f m) := rfl

theorem bind_apply (x : Exec α) (f : α → Exec β) (m : Machine) :
    (x >>= f) m = match x m with
      | (.ok a, m) => f a m
      | (.error e, m) => (.error e, m) := rfl

theorem bind_ok {x : Exec α} {f : α → Exec β} {m m' : Machine} {a : α} (h : x m = (.ok a, m')) :
    (x >>= f) m = f a m' := by
  simp [bind_apply, h]

theorem bind_error {x : Exec α} {f : α → Exec β} {m m' : Machine} {e : Fault}
    (h : x m = (.error e, m')) : (x >>= f) m = (.error e, m') := by
  simp [bind_apply, h]

/-- The value of a local slot. -/
def getLocal (slot : Nat) : Exec Value :=
  read fun m => m.frame.get slot

/-- Writes a local slot. -/
def setLocal (slot : Nat) (v : Value) : Exec Unit :=
  modify fun m => { m with frame := m.frame.set slot v }

/-- The observations of a site. -/
def site (i : Nat) : Exec Site :=
  read fun m => m.profile.get i

/-- Widens the observed kind of results or stored values. -/
def widenValue (i : Nat) (next : Kind) : Exec Unit :=
  modify fun m =>
    let s := m.profile.get i
    { m with
      profile := m.profile.set i { s with value := s.value.widen next }
      epoch := m.epoch + s.value.invalidations next }

/-- Widens the observed kind of index values. -/
def widenIndex (i : Nat) (next : Kind) : Exec Unit :=
  modify fun m =>
    let s := m.profile.get i
    { m with
      profile := m.profile.set i { s with index := s.index.widen next }
      epoch := m.epoch + s.index.invalidations next }

/-- Puts the target check of a site in place, which is an invalidation the first time. -/
def publishTargetCheck (i : Nat) : Exec Unit :=
  modify fun m =>
    let s := m.profile.get i
    { m with
      profile := m.profile.set i { s with targetCheck := s.targetCheck.publish () }
      epoch := m.epoch + s.targetCheck.invalidations }

/-- Puts the index conversion of a site in place, which is an invalidation the first time, and
shows it an index value. -/
def publishConversion (i : Nat) (v : Value) : Exec Unit :=
  modify fun m =>
    let s := m.profile.get i
    { m with
      profile := m.profile.set i { s with conversion := ⟨some ((s.conversion.getD {}).see v)⟩ }
      epoch := m.epoch + s.conversion.invalidations }

/-- The key that a value addresses. -/
def key (v : Value) : Exec Key :=
  read fun m => m.heap.key v

/-- Runs `x` between two reports. -/
def reporting (about : Meta) (value : α → Value) (x : Exec α) : Exec α := fun m =>
  match x { m with trace := m.trace ++ [.enter about] } with
  | (.ok a, m) => (.ok a, { m with trace := m.trace ++ [.leave about (value a)] })
  | (.error e, m) => (.error e, { m with trace := m.trace ++ [.fail about e] })

/-- Reporting keeps the outcome and puts one event before those of the computation, one after. -/
theorem reporting_apply (about : Meta) (value : α → Value) (x : Exec α) (m : Machine) :
    reporting about value x m =
      let r := x { m with trace := m.trace ++ [.enter about] }
      (r.1, { r.2 with trace := r.2.trace ++ [.closing about (r.1.map value)] }) := by
  simp only [reporting]
  rcases x { m with trace := m.trace ++ [.enter about] } with ⟨e | a, m'⟩ <;> rfl

end Exec

end AdaptiveTree
