import AdaptiveTree.Locale.Making
import AdaptiveTree.Proofs.Object.Values
import Mathlib.Data.Finset.Card

/-!
# Heaps that reflect each other

A map of values is `Faithful` if a program cannot tell a value from its image, but for the numbers
of objects, the identities of list formats, and the representation of numbers. One heap `Reflects`
another on a set of objects if its objects have the images of their values, and the set has all
objects that are held by its own. On such a set, everything that is computed from values by way of
the heap is the same in both: texts and keys (`Reflects.display`, `Reflects.key`) and the list
formats that are made (`Reflects.make`).

The text of an array is bounded in depth by the number of objects, and the two heaps may differ in
that. But the bound is no bound: a text that can be had at any depth can be had at the number of
objects, because the arrays entered one inside the other are different ones (`render?_stable`).
-/

set_option autoImplicit false

namespace AdaptiveTree

/-! ## Faithful maps of values -/

/-- The map keeps what a program observes of a value. -/
structure Faithful (f : Value → Value) (num : Nat → Nat) : Prop where
  undefined : f .undefined = .undefined
  null : f .null = .null
  bool : ∀ b, f (.bool b) = .bool b
  int : ∀ i, f (.int i) = .int i ∨ f (.int i) = .double (Value.widen i)
  double : ∀ d, f (.double d) = .double d
  string : ∀ s, f (.string s) = .string s
  object : ∀ id, f (.object id) = .object (num id)
  pattern : ∀ p, f (.pattern p) = .pattern p
  listFormat : ∀ l, ∃ l', f (.listFormat l) = .listFormat l' ∧ l'.value = l.value

namespace Faithful

variable {f : Value → Value} {num : Nat → Nat} (hf : Faithful f num)

include hf

/-- What is the same for both representations of a number, for all objects and for all list formats
of one content, is the same for a value and its image. -/
theorem observed {β : Type} (obs : Value → β)
    (hint : ∀ i, obs (.double (Value.widen i)) = obs (.int i))
    (hobject : ∀ id id', obs (.object id') = obs (.object id))
    (hformat : ∀ l l', l'.value = l.value → obs (.listFormat l') = obs (.listFormat l))
    (v : Value) : obs (f v) = obs v := by
  cases v with
  | int i =>
    rcases hf.int i with h | h
    · rw [h]
    · rw [h, hint]
  | object id => rw [hf.object, hobject]
  | listFormat l =>
    obtain ⟨l', h, hl⟩ := hf.listFormat l
    rw [h, hformat l l' hl]
  | _ => simp only [hf.undefined, hf.null, hf.bool, hf.double, hf.string, hf.pattern]

theorem isNullish (v : Value) : (f v).isNullish = v.isNullish :=
  hf.observed _ (fun _ => rfl) (fun _ _ => rfl) (fun _ _ _ => rfl) v

theorem typeName (v : Value) : (f v).typeName = v.typeName :=
  hf.observed _ (fun _ => rfl) (fun _ _ => rfl) (fun _ _ _ => rfl) v

theorem toNumber (v : Value) : (f v).toNumber = v.toNumber :=
  hf.observed _ (fun _ => rfl) (fun _ _ => rfl) (fun _ _ _ => rfl) v

theorem plainText (v : Value) : Heap.plainText (f v) = Heap.plainText v :=
  hf.observed _ (fun i => Number.text_ofInt (fitsDouble_toInt i)) (fun _ _ => rfl)
    (fun _ _ _ => rfl) v

theorem tagOfValue (v : Value) : Locale.tagOfValue (f v) = Locale.tagOfValue v :=
  hf.observed _ (fun _ => rfl) (fun _ _ => rfl) (fun _ _ _ => rfl) v

/-- Only objects have objects as images. -/
theorem ne_object {v : Value} (hv : ∀ id, v ≠ .object id) (id : Nat) : f v ≠ .object id := by
  have hobs := hf.observed (fun v => v.asObject?.isSome) (fun _ => rfl) (fun _ _ => rfl)
    (fun _ _ _ => rfl) v
  intro h
  rw [h] at hobs
  cases v with
  | object id => exact hv id rfl
  | _ => cases hobs

theorem eq_undefined {v : Value} (h : f v = .undefined) : v = .undefined := by
  have hnull := hf.isNullish v
  rw [h] at hnull
  cases v with
  | undefined => rfl
  | null => rw [hf.null] at h; cases h
  | _ => cases hnull

theorem arrayLength? (v : Value) : Object.arrayLength? (f v) = Object.arrayLength? v := by
  simp only [Object.arrayLength?, hf.toNumber]

end Faithful

/-! ## The depth of texts -/

section

variable {α β : Type}

theorem mapM_mono {p q : α → Option β} {xs : List α} {ys : List β}
    (h : ∀ x y, p x = some y → q x = some y) (hp : xs.mapM p = some ys) :
    xs.mapM q = some ys := by
  induction xs generalizing ys with
  | nil => exact hp
  | cons x xs ih =>
    simp only [List.mapM_cons, Option.bind_eq_bind, Option.bind_eq_some_iff] at hp ⊢
    obtain ⟨y, hx, ys', hxs, hys⟩ := hp
    exact ⟨y, h x y hx, ys', ih hxs, hys⟩

theorem mapM_congr {p q : α → Option β} {xs : List α} (h : ∀ x ∈ xs, p x = q x) :
    xs.mapM p = xs.mapM q := by
  induction xs with
  | nil => rfl
  | cons x xs ih =>
    rw [List.forall_mem_cons] at h
    rw [List.mapM_cons, List.mapM_cons, h.1, ih h.2]

theorem mapM_eq_none {p : α → Option β} {xs : List α} :
    xs.mapM p = none ↔ ∃ x ∈ xs, p x = none := by
  induction xs with
  | nil => simp [pure]
  | cons x xs ih => cases hx : p x <;> cases hxs : xs.mapM p <;> simp_all

end

namespace Heap

variable {h : Heap}

/-- The text of an element of an array, which may be a hole. -/
def elementText? (h : Heap) (depth : Nat) : Option Value → Option String
  | none => some ""
  | some v => if v.isNullish then some "" else h.render? depth v

theorem render?_of_plain (h : Heap) (depth : Nat) {v : Value} (hv : ∀ id, v ≠ .object id) :
    h.render? depth v = some (plainText v) := by
  cases v with
  | object id => exact absurd rfl (hv id)
  | _ => simp [render?]

theorem render?_ordinary {id : Nat} (hk : (h.get id).kind = .ordinary) (depth : Nat) :
    h.render? depth (.object id) = some (plainText (.object id)) :=
  render?.eq_1 _ _ _ hk

theorem render?_array_zero {id : Nat} (hk : (h.get id).kind = .array) :
    h.render? 0 (.object id) = none :=
  render?.eq_2 _ _ hk

theorem render?_array_succ {id : Nat} (hk : (h.get id).kind = .array) (depth : Nat) :
    h.render? (depth + 1) (.object id) =
      ((h.get id).elements.toList.mapM (h.elementText? depth)).map (String.intercalate ",") := by
  rw [render?.eq_3 _ _ _ hk]
  rfl

theorem lt_size_of_array {id : Nat} (hk : (h.get id).kind = .array) : id < h.objects.size := by
  refine Nat.lt_of_not_le fun hge => ?_
  rw [get_of_size_le hge] at hk
  cases hk

theorem elementText?_mono {depth depth' : Nat} {e : Option Value} {text : String}
    (h' : ∀ v text, h.render? depth v = some text → h.render? depth' v = some text)
    (ht : h.elementText? depth e = some text) : h.elementText? depth' e = some text := by
  cases e with
  | none => exact ht
  | some v =>
    simp only [elementText?] at ht ⊢
    by_cases hv : v.isNullish = true
    · rwa [if_pos hv] at ht ⊢
    · rw [if_neg hv] at ht ⊢
      exact h' v text ht

/-- A text that is had is also had one array deeper. -/
theorem render?_succ {depth : Nat} {v : Value} {text : String}
    (ht : h.render? depth v = some text) : h.render? (depth + 1) v = some text := by
  induction depth generalizing v text with
  | zero =>
    cases v with
    | object id =>
      cases hk : (h.get id).kind with
      | ordinary => rwa [render?_ordinary hk] at ht ⊢
      | array =>
        rw [render?_array_zero hk] at ht
        cases ht
    | _ => rwa [render?_of_plain _ _ (by simp)] at ht ⊢
  | succ depth ih =>
    cases v with
    | object id =>
      cases hk : (h.get id).kind with
      | ordinary => rwa [render?_ordinary hk] at ht ⊢
      | array =>
        rw [render?_array_succ hk] at ht ⊢
        obtain ⟨texts, htexts, rfl⟩ := Option.map_eq_some_iff.1 ht
        have hdeeper := mapM_mono (fun _ _ => elementText?_mono fun _ _ => ih) htexts
        exact Option.map_eq_some_iff.2 ⟨texts, hdeeper, rfl⟩
    | _ => rwa [render?_of_plain _ _ (by simp)] at ht ⊢

/-- An element that has no text at one depth but has one at a greater depth is an object. -/
theorem elementText?_gained {depth : Nat} {e : Option Value}
    (hnone : h.elementText? depth e = none) (hsome : h.elementText? (depth + 1) e ≠ none) :
    ∃ id, h.render? depth (.object id) = none ∧ h.render? (depth + 1) (.object id) ≠ none := by
  cases e with
  | none => cases hnone
  | some v =>
    simp only [elementText?] at hnone hsome
    by_cases hv : v.isNullish = true
    · rw [if_pos hv] at hnone
      cases hnone
    · rw [if_neg hv] at hnone hsome
      cases v with
      | object id => exact ⟨id, hnone, hsome⟩
      | _ =>
        rw [render?_of_plain _ _ (by simp)] at hnone
        cases hnone

theorem array_of_render?_eq_none {depth id : Nat} (hnone : h.render? depth (.object id) = none) :
    (h.get id).kind = .array := by
  cases hk : (h.get id).kind with
  | ordinary =>
    rw [render?_ordinary hk] at hnone
    cases hnone
  | array => rfl

/-- An object whose text needs more than `depth` arrays inside each other leads through as many
different ones. -/
theorem exists_arrays {depth id : Nat} (hnone : h.render? depth (.object id) = none)
    (hsome : h.render? (depth + 1) (.object id) ≠ none) :
    ∃ ids : Finset Nat, ids.card = depth + 1 ∧
      ∀ i ∈ ids, i < h.objects.size ∧ h.render? (depth + 1) (.object i) ≠ none := by
  have harray := array_of_render?_eq_none hnone
  have hid := lt_size_of_array harray
  induction depth generalizing id with
  | zero =>
    refine ⟨{id}, rfl, fun i hi => ?_⟩
    obtain rfl := Finset.mem_singleton.1 hi
    exact ⟨hid, hsome⟩
  | succ depth ih =>
    -- some element gains its text at the same depth, one array further in
    have hinner : ∃ i, h.render? depth (.object i) = none ∧
        h.render? (depth + 1) (.object i) ≠ none := by
      rw [render?_array_succ harray, Option.map_eq_none_iff, mapM_eq_none] at hnone
      obtain ⟨e, he, hnone⟩ := hnone
      rw [render?_array_succ harray, Ne, Option.map_eq_none_iff, mapM_eq_none] at hsome
      exact elementText?_gained hnone fun hgain => hsome ⟨e, he, hgain⟩
    obtain ⟨i, hi, hi'⟩ := hinner
    have hiarray := array_of_render?_eq_none hi
    obtain ⟨ids, hcard, hids⟩ := ih hi hi' hiarray (lt_size_of_array hiarray)
    have hnew : id ∉ ids := fun hmem => (hids id hmem).2 hnone
    refine ⟨insert id ids, by rw [Finset.card_insert_of_notMem hnew, hcard], fun j hj => ?_⟩
    rcases Finset.mem_insert.1 hj with rfl | hj
    · exact ⟨hid, hsome⟩
    · obtain ⟨text, htext⟩ := Option.ne_none_iff_exists'.1 (hids j hj).2
      exact ⟨(hids j hj).1, by simp [render?_succ htext]⟩

/-- From the number of objects on, a greater depth gives no more texts. -/
theorem render?_stable {depth : Nat} (hdepth : h.objects.size ≤ depth) (v : Value) :
    h.render? (depth + 1) v = h.render? depth v := by
  cases hv : h.render? depth v with
  | some text => exact render?_succ hv
  | none =>
    cases v with
    | object id =>
      by_contra hsome
      obtain ⟨ids, hcard, hids⟩ := exists_arrays hv hsome
      have hle : ids.card ≤ (Finset.range h.objects.size).card :=
        Finset.card_le_card fun i hi => Finset.mem_range.2 (hids i hi).1
      rw [Finset.card_range] at hle
      omega
    | _ =>
      rw [render?_of_plain _ _ (by simp)] at hv
      cases hv

theorem display_eq {depth : Nat} (hdepth : h.objects.size ≤ depth) (v : Value) :
    h.display v = (h.render? depth v).getD "" := by
  have hstable : ∀ k, h.render? (h.objects.size + k) v = h.render? h.objects.size v := by
    intro k
    induction k with
    | zero => rfl
    | succ k ih => rw [← Nat.add_assoc, render?_stable (by omega), ih]
  obtain ⟨k, rfl⟩ := Nat.exists_eq_add_of_le hdepth
  rw [display, hstable 1, hstable k]

/-! ## Texts and keys -/

/-- On the objects of `D`, the heap `k` has the images of the values in `h`, and `D` has all objects
that are held by its own. -/
structure Reflects (f : Value → Value) (num : Nat → Nat) (D : Nat → Prop) (h k : Heap) : Prop where
  get : ∀ id, D id → k.get (num id) = (h.get id).mapValues f
  closed : ∀ id, D id → ∀ id', (h.get id).Holds (.object id') → D id'

namespace Reflects

variable {f : Value → Value} {num : Nat → Nat} {D : Nat → Prop} {k : Heap}

theorem render? (hr : Reflects f num D h k) (hf : Faithful f num) (depth : Nat) {v : Value}
    (hv : ∀ id, v = .object id → D id) : k.render? depth (f v) = h.render? depth v := by
  by_cases hobj : ∃ id, v = .object id
  · -- only the texts of arrays use the heap, and only they need the induction
    obtain ⟨id, rfl⟩ := hobj
    have hid := hv id rfl
    have hget := hr.get id hid
    rw [hf.object]
    cases hk : (h.get id).kind with
    | ordinary =>
      have hk' : (k.get (num id)).kind = .ordinary := by rw [hget]; exact hk
      rw [render?_ordinary hk, render?_ordinary hk']
      rfl
    | array =>
      have hk' : (k.get (num id)).kind = .array := by rw [hget]; exact hk
      cases depth with
      | zero => rw [render?_array_zero hk, render?_array_zero hk']
      | succ depth =>
        rw [render?_array_succ hk, render?_array_succ hk', hget]
        simp only [Object.mapValues, Array.toList_map, List.mapM_map]
        refine congrArg _ (mapM_congr fun e he => ?_)
        cases e with
        | none => rfl
        | some w =>
          have hw : ∀ id', w = .object id' → D id' := by
            rintro id' rfl
            exact hr.closed id hid id' (.inl (Array.mem_toList_iff.1 he))
          show (if (f w).isNullish then some "" else k.render? depth (f w)) =
            if w.isNullish then some "" else h.render? depth w
          rw [hf.isNullish, hr.render? hf depth hw]
  · have hplain : ∀ id, v ≠ .object id := fun id hid => hobj ⟨id, hid⟩
    rw [render?_of_plain _ _ hplain, render?_of_plain _ _ (hf.ne_object hplain), hf.plainText]

theorem display (hr : Reflects f num D h k) (hf : Faithful f num) {v : Value}
    (hv : ∀ id, v = .object id → D id) : k.display (f v) = h.display v := by
  -- the two bounds on the depth differ, but both are below their maximum
  rw [display_eq (Nat.le_max_left k.objects.size h.objects.size),
    display_eq (Nat.le_max_right k.objects.size h.objects.size), hr.render? hf _ hv]

theorem key (hr : Reflects f num D h k) (hf : Faithful f num) {v : Value}
    (hv : ∀ id, v = .object id → D id) : k.key (f v) = h.key v := by
  rw [key_eq, key_eq, hr.display hf hv]

end Reflects

end Heap

/-! ## List formats -/

namespace Object

variable (f : Value → Value)

theorem ownIndices_mapValues (o : Object) : (o.mapValues f).ownIndices = o.ownIndices := by
  have hsize : (o.mapValues f).elements.size = o.elements.size := by simp [mapValues]
  have hnames : ((o.mapValues f).properties.entries.filterMap fun e => Key.parseIndex? e.1) =
      o.properties.entries.filterMap fun e => Key.parseIndex? e.1 := by
    simp only [mapValues, Table.mapValues, List.filterMap_map, Function.comp_def]
  simp only [ownIndices, hsize, hnames, hasOwn_mapValues]
  rfl

theorem get_index_mapValues (hf : f .undefined = .undefined) (o : Object) (i : UInt32) :
    (o.mapValues f).get (.index i) = f (o.get (.index i)) := by
  have hkey : o.isLengthKey (.index i) = false := by simp [isLengthKey]
  simp only [get, get?_eq, isLengthKey_mapValues, hkey, content?_mapValues]
  cases o.content? (.index i) with
  | none => exact hf.symm
  | some v => rfl

end Object

namespace Heap.Reflects

variable {f : Value → Value} {num : Nat → Nat} {D : Nat → Prop} {h k : Heap}
  (hr : Reflects f num D h k) (hf : Faithful f num)

include hr hf

theorem localeValues {v : Value} (hv : ∀ id, v = .object id → D id) :
    Locale.localeValues k (f v) = (Locale.localeValues h v).map (List.map f) := by
  cases v with
  | object id =>
    rw [hf.object]
    show Except.ok _ = Except.ok _
    rw [hr.get id (hv id rfl), Object.ownIndices_mapValues, List.map_map]
    congr 2
    funext i
    exact Object.get_index_mapValues f hf.undefined _ i
  | int i => rcases hf.int i with hi | hi <;> rw [hi] <;> rfl
  | listFormat l =>
    obtain ⟨l', hl, -⟩ := hf.listFormat l
    rw [hl]
    rfl
  | string s =>
    rw [hf.string]
    simp [Locale.localeValues, Except.map, hf.string]
  | _ => simp only [hf.undefined, hf.null, hf.bool, hf.double, hf.pattern]; rfl

theorem localeList {v : Value} (hv : ∀ id, v = .object id → D id) :
    Locale.localeList k (f v) = Locale.localeList h v := by
  have htags : ∀ vs : List Value,
      (vs.map f).mapM Locale.tagOfValue = vs.mapM Locale.tagOfValue := by
    intro vs
    rw [List.mapM_map]
    congr 1
    funext u
    exact hf.tagOfValue u
  unfold Locale.localeList
  rw [hr.localeValues hf hv]
  cases Locale.localeValues h v with
  | error e => rfl
  | ok vs => simp only [Except.map, htags]

theorem optionsObject {v : Value} (hv : ∀ id, v = .object id → D id) :
    Locale.optionsObject k (f v) =
      (Locale.optionsObject h v).map (Option.map (Object.mapValues f)) := by
  cases v with
  | object id =>
    rw [hf.object]
    show Except.ok (some (k.get (num id))) = _
    rw [hr.get id (hv id rfl)]
    rfl
  | int i => rcases hf.int i with hi | hi <;> rw [hi] <;> rfl
  | listFormat l =>
    obtain ⟨l', hl, -⟩ := hf.listFormat l
    rw [hl]
    rfl
  | _ => simp only [hf.undefined, hf.null, hf.bool, hf.double, hf.string, hf.pattern]; rfl

theorem option {options : Option Object}
    (ho : ∀ o, options = some o → ∀ id, o.Holds (.object id) → D id) (name : String)
    (allowed : List String) (fallback : String) :
    Locale.option k (options.map (Object.mapValues f)) name allowed fallback =
      Locale.option h options name allowed fallback := by
  cases options with
  | none => rfl
  | some o =>
    simp only [Locale.option, Option.map_some, Option.bind_some, Object.named?_mapValues]
    cases hv : o.named? name with
    | none => rfl
    | some v =>
      have hdisplay : k.display (f v) = h.display v :=
        hr.display hf fun id hid => ho o rfl id (hid ▸ Object.holds_of_named? hv)
      by_cases hu : v = .undefined
      · rw [hu, Option.map_some, hf.undefined]
      · have hfu : f v ≠ .undefined := fun h => hu (hf.eq_undefined h)
        simp only [Option.map_some, hdisplay]

/-- The same list format is made of two values and of their images. -/
theorem make (d : Locale.Data) {l o : Value} (hl : ∀ id, l = .object id → D id)
    (ho : ∀ id, o = .object id → D id) :
    Locale.ListFormat.make k d (f l) (f o) = Locale.ListFormat.make h d l o := by
  unfold Locale.ListFormat.make
  rw [hr.localeList hf hl, hr.optionsObject hf ho]
  cases Locale.localeList h l with
  | error e => rfl
  | ok requested =>
    cases hopt : Locale.optionsObject h o with
    | error e => rfl
    | ok options =>
      have hheld : ∀ p, options = some p → ∀ id, p.Holds (.object id) → D id := by
        rintro p rfl
        cases o with
        | object id =>
          cases hopt
          exact hr.closed id (ho id rfl)
        | _ => cases hopt
      simp only [bind, Except.bind, Except.map, hr.option hf hheld]

end Heap.Reflects

end AdaptiveTree
