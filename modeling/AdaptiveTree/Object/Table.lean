import AdaptiveTree.Value

/-!
# Named properties

A finite map from names to values. Storing under a name that is present replaces its value.
-/

set_option autoImplicit false

namespace AdaptiveTree

/-- Named properties; a name stands at most once. -/
structure Table where
  entries : List (String × Value)

namespace Table

/-- No properties. -/
def empty : Table := ⟨[]⟩

/-- The value under a name. -/
def get? (t : Table) (name : String) : Option Value :=
  t.entries.lookup name

/-- Whether there is a value under the name. -/
def contains (t : Table) (name : String) : Bool :=
  (t.get? name).isSome

/-- Drops the names that do not pass the test. -/
def keep (t : Table) (test : String → Bool) : Table :=
  ⟨t.entries.filter fun e => test e.1⟩

/-- Stores a value under a name. -/
def insert (t : Table) (name : String) (v : Value) : Table :=
  ⟨(name, v) :: (t.keep (· != name)).entries⟩

theorem lookup_filter (test : String → Bool) (name : String) (es : List (String × Value)) :
    (es.filter fun e => test e.1).lookup name = if test name then es.lookup name else none := by
  induction es with
  | nil => simp
  | cons e es ih =>
    obtain ⟨k, v⟩ := e
    by_cases hk : name = k
    · subst hk
      cases ht : test name with
      | true => simp [ht]
      | false =>
        rw [List.filter_cons_of_neg (by simp [ht]), ih, ht]
        rfl
    · have hne : (name == k) = false := by simpa using hk
      cases ht : test k with
      | true => simp only [List.filter_cons, ht, if_true, List.lookup_cons, hne, ih]
      | false =>
        rw [List.filter_cons_of_neg (by simp [ht]), ih, List.lookup_cons, hne]

@[simp] theorem get?_empty (name : String) : empty.get? name = none := rfl

/-- Dropping names leaves the others as they are. -/
@[simp] theorem get?_keep (t : Table) (test : String → Bool) (name : String) :
    (t.keep test).get? name = if test name then t.get? name else none :=
  lookup_filter test name t.entries

/-- The last value stored under a name is the one read. -/
@[simp] theorem get?_insert (t : Table) (name other : String) (v : Value) :
    (t.insert name v).get? other = if other = name then some v else t.get? other := by
  by_cases h : other = name
  · subst h
    simp [insert, get?]
  · have hne : (other == name) = false := by simpa using h
    have hkeep : (other != name) = true := by simp [bne, hne]
    have := get?_keep t (· != name) other
    rw [hkeep, if_pos rfl] at this
    simp only [insert, get?, List.lookup_cons, hne, h, if_false]
    exact this

end Table

end AdaptiveTree
