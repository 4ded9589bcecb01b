import AdaptiveTree.Exec.Match
import AdaptiveTree.Proofs.Canon

/-!
# Renaming objects

Programs cannot tell the number of an object or the identity of a list format. A renaming gives them
new ones. It commutes with reading (`Object.rename_get`), with arithmetic (`Op.apply_rename`) and
with the canonical form of numbers (`Object.canon_rename`). Most of what is computed is plain: it is
neither an object nor a list format, so no renaming changes it.
-/

set_option autoImplicit false

namespace AdaptiveTree

/-- New numbers for objects, and new identities for list formats. -/
structure Renaming where
  object : Nat → Nat
  format : Nat → Nat

namespace Value

/-- The value under new numbers and identities. -/
def rename (ρ : Renaming) : Value → Value
  | .object id => .object (ρ.object id)
  | .listFormat l => .listFormat ⟨ρ.format l.id, l.value⟩
  | v => v

theorem rename_faithful (ρ : Renaming) : Faithful (rename ρ) ρ.object where
  undefined := rfl
  null := rfl
  bool _ := rfl
  int _ := .inl rfl
  double _ := rfl
  string _ := rfl
  object _ := rfl
  pattern _ := rfl
  listFormat _ := ⟨_, rfl, rfl⟩

theorem canon_rename (ρ : Renaming) (v : Value) : (v.rename ρ).canon = v.canon.rename ρ := by
  cases v <;> rfl

/-- The value is neither an object nor a list format. -/
def isPlain : Value → Bool
  | .object _ | .listFormat _ => false
  | _ => true

theorem rename_of_plain {v : Value} (h : v.isPlain = true) (ρ : Renaming) : v.rename ρ = v := by
  cases v with
  | object | listFormat => cases h
  | _ => rfl

theorem isPlain_number (d : Float) : (number d).isPlain = true := by
  rcases number_cases d with h | ⟨i, h, -⟩ <;> rw [h] <;> rfl

end Value

theorem Key.isPlain_toValue (k : Key) : k.toValue.isPlain = true := by
  cases k with
  | index i =>
    simp only [Key.toValue]
    split <;> rfl
  | name s => rfl

theorem Op.isPlain_apply (op : Op) (h : Heap) (v w : Value) : (op.apply h v w).isPlain = true := by
  have hwide : (op.applyWide h v w).isPlain = true := by
    unfold applyWide
    split
    · rfl
    · exact Value.isPlain_number _
  unfold apply
  split
  · split
    · rfl
    · exact hwide
  · exact hwide

theorem Element.isPlain_ofString (s : String) (k : Key) : (ofString s k).isPlain = true := by
  unfold ofString
  split
  · split <;> rfl
  · exact Value.isPlain_number _
  · rfl

theorem Element.isPlain_ofPattern (p : Pattern) (k : Key) : (ofPattern p k).isPlain = true := by
  unfold ofPattern
  split <;> rfl

theorem Element.isPlain_ofListFormat (f : Locale.ListFormat) (k : Key) :
    (ofListFormat f k).isPlain = true := by
  unfold ofListFormat
  split <;> rfl

/-- The array that a match gives holds texts and numbers. -/
theorem Match.isPlain_result {subject : String} {found : Pattern.Match} {o : Object}
    (h : Match.result subject found = .ok o) {v : Value} (hv : o.Holds v) : v.isPlain = true := by
  rcases Object.holds_of_put h hv with rfl | hv
  · exact Value.isPlain_number _
  · obtain ⟨i, -, rfl⟩ := List.mem_map.1 (Object.holds_array hv)
    split <;> rfl

/-- The object with its values under new numbers and identities. -/
def Object.rename (ρ : Renaming) (o : Object) : Object :=
  o.mapValues (Value.rename ρ)

theorem Object.canon_rename (ρ : Renaming) (o : Object) :
    (o.rename ρ).canon = o.canon.rename ρ := by
  simp only [rename, canon_eq_mapValues, mapValues_mapValues]
  exact mapValues_congr _ fun v _ => v.canon_rename ρ

theorem Object.rename_get (ρ : Renaming) (o : Object) (k : Key) :
    (o.rename ρ).get k = (o.get k).rename ρ := by
  simp only [rename, get, get?_eq, isLengthKey_mapValues, content?_mapValues]
  split
  · exact (Value.rename_of_plain (Value.isPlain_number _) ρ).symm
  · cases o.content? k <;> rfl

theorem Object.get_cases (o : Object) (k : Key) : o.Holds (o.get k) ∨ (o.get k).isPlain = true := by
  simp only [get, get?_eq]
  split
  · exact .inr (Value.isPlain_number _)
  · cases hc : o.content? k with
    | none => exact .inr rfl
    | some v => exact .inl (Object.holds_of_content? hc)

theorem Op.apply_rename (op : Op) {ρ : Renaming} {D : Nat → Prop} {h k : Heap}
    (hr : h.Reflects (Value.rename ρ) ρ.object D k) {v w : Value}
    (hv : ∀ id, v = .object id → D id) (hw : ∀ id, w = .object id → D id) :
    op.apply k (v.rename ρ) (w.rename ρ) = op.apply h v w := by
  have hf := Value.rename_faithful ρ
  have hjoins : ∀ u : Value, joins (u.rename ρ) = joins u := fun u => by cases u <;> rfl
  have hwide : op.applyWide k (v.rename ρ) (w.rename ρ) = op.applyWide h v w := by
    simp only [applyWide, hjoins, hr.display hf hv, hr.display hf hw, hf.toNumber]
  -- a pair of integers is left as it is, and no other pair becomes one
  cases v with
  | int a =>
    cases w with
    | int b =>
      simp only [Value.rename, apply] at hwide ⊢
      cases op.applyInt a b with
      | some i => rfl
      | none => exact hwide
    | _ => exact hwide
  | _ => exact hwide

end AdaptiveTree
