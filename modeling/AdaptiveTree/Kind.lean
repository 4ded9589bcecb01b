import AdaptiveTree.Value

/-!
# Observed kinds

A site of a program remembers the kinds of values it has met. A kind only ever widens: from nothing
over integers and doubles to arbitrary values. Every widening after the first is an invalidation.
-/

set_option autoImplicit false

namespace AdaptiveTree

/-- The kind of the values observed so far, from the narrowest to the widest. -/
inductive Kind where
  | uninitialized | int | double | generic
deriving DecidableEq, Repr

namespace Kind

/-- The place of a kind in the order. -/
def rank : Kind → Nat
  | .uninitialized => 0
  | .int => 1
  | .double => 2
  | .generic => 3

/-- The kind at a place in the order; past the last there is only the widest. -/
def ofRank : Nat → Kind
  | 0 => .uninitialized
  | 1 => .int
  | 2 => .double
  | _ => .generic

/-- The kind of one value. -/
def of : Value → Kind
  | .int _ => .int
  | .double _ => .double
  | _ => .generic

/-- Whether widening to `next` changes the kind. -/
def widens (k next : Kind) : Bool :=
  k.rank < next.rank

/-- The kind after widening to at least `next`. -/
def widen (k next : Kind) : Kind :=
  if k.widens next then next else k

/-- Number of invalidations that widening to `next` takes. -/
def invalidations (k next : Kind) : Nat :=
  if k.widens next && k != .uninitialized then 1 else 0

/-- Whether the integer channel is still worth trying. -/
def allowsInt (k : Kind) : Bool :=
  k.rank ≤ Kind.int.rank

/-- Whether the double channel is still worth trying. -/
def allowsDouble (k : Kind) : Bool :=
  k.rank ≤ Kind.double.rank

/-- The name of a kind. -/
def name : Kind → String
  | .uninitialized => "uninit"
  | .int => "int"
  | .double => "double"
  | .generic => "generic"

/-- The kind with the given name. -/
def ofName? (s : String) : Option Kind :=
  [uninitialized, int, double, generic].find? fun k => k.name == s

end Kind

end AdaptiveTree
