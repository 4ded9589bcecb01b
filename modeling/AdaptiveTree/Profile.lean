import AdaptiveTree.Kind

/-!
# Profiles

What a program has learnt while it ran. Every arithmetic or element-writing node is a site with
observations of its own; the profile of a program holds them by the number of the site. Reading past
the end gives a site that has observed nothing.
-/

set_option autoImplicit false

namespace AdaptiveTree

/-- A part of a node that is made when it is first needed and kept from then on. Making it is an
invalidation. -/
structure Part (α : Type) where
  made? : Option α := none
deriving DecidableEq, Repr

namespace Part

variable {α : Type}

/-- Whether the part has been made. -/
def isMade (p : Part α) : Bool :=
  p.made?.isSome

/-- The part: the one made before, or else the candidate. -/
def getD (p : Part α) (candidate : α) : α :=
  p.made?.getD candidate

/-- The part after it was needed: what was made before is kept. -/
def publish (p : Part α) (candidate : α) : Part α :=
  ⟨some (p.getD candidate)⟩

/-- Number of invalidations that needing the part takes. -/
def invalidations (p : Part α) : Nat :=
  if p.isMade then 0 else 1

@[simp] theorem getD_publish (p : Part α) (a b : α) :
    (p.publish a).getD b = p.getD a := rfl

@[simp] theorem isMade_publish (p : Part α) (a : α) : (p.publish a).isMade = true := rfl

end Part

/-- The kinds of index values that an index conversion has met. -/
structure IndexKinds where
  int : Bool := false
  double : Bool := false
  string : Bool := false
  other : Bool := false
deriving DecidableEq, Repr

/-- Adds the kind of one index value. -/
def IndexKinds.see (k : IndexKinds) : Value → IndexKinds
  | .int _ => { k with int := true }
  | .double _ => { k with double := true }
  | .string _ => { k with string := true }
  | _ => { k with other := true }

/-- The names of the kinds met. -/
def IndexKinds.names (k : IndexKinds) : List String :=
  [(k.int, "int"), (k.double, "double"), (k.string, "string"), (k.other, "other")].filterMap
    fun (met, name) => if met then some name else none

/-- The names of the kinds met, as a text. -/
def IndexKinds.text (k : IndexKinds) : String :=
  String.intercalate "," k.names

/-- The observations of one site: the kind of its results or stored values, the kind of its index
values, its target check, and its index conversion with what that has met. -/
structure Site where
  value : Kind := .uninitialized
  index : Kind := .uninitialized
  targetCheck : Part Unit := {}
  conversion : Part IndexKinds := {}
deriving DecidableEq, Repr

/-- The observations of all sites of a program. -/
structure Profile where
  sites : Array Site

namespace Profile

/-- Nothing observed. -/
def empty : Profile := ⟨#[]⟩

/-- The observations of a site. -/
def get (p : Profile) (i : Nat) : Site :=
  p.sites.getD i {}

/-- Replaces the observations of a site. -/
def set (p : Profile) (i : Nat) (s : Site) : Profile :=
  if i < p.sites.size then ⟨p.sites.setIfInBounds i s⟩
  else ⟨(p.sites ++ Array.replicate (i - p.sites.size) ({} : Site)).push s⟩

theorem get_set (p : Profile) (i j : Nat) (s : Site) :
    (p.set i s).get j = if j = i then s else p.get j := by
  simp only [set, get]
  by_cases hi : i < p.sites.size
  · rw [if_pos hi]
    by_cases hj : j = i
    · simp [hj, hi]
    · simp [hj, Ne.symm hj]
  · rw [if_neg hi]
    simp only [Array.getD_eq_getD_getElem?, Array.getElem?_push, Array.size_append,
      Array.size_replicate, Array.getElem?_append, Array.getElem?_replicate]
    grind

end Profile

end AdaptiveTree
