/-!
# Handles

Some values are told apart by identity and not by content. A handle is a value with the number it
got when it was made; two handles are the same when their numbers are.
-/

set_option autoImplicit false

namespace AdaptiveTree

/-- A value with an identity. -/
structure Handle (α : Type) where
  id : Nat
  value : α
deriving Repr

/-- Whether two handles are the same one. -/
def Handle.same {α : Type} (a b : Handle α) : Bool :=
  a.id == b.id

end AdaptiveTree
