import AdaptiveTree.Locale.Making
import AdaptiveTree.Proofs.Locale.Tag
import AdaptiveTree.Proofs.Object.Arrays

/-!
# Requested locales

An array of locales is read by the indices that are present in it, wherever their values are
stored: the indices that are collected from the vector and the table are those that are present, in
ascending order (`Object.mem_ownIndices`, `Object.ownIndices_sorted`). The list of locales has the
canonical tags of their values, each where it occurs first, and the first value that is no tag is
reported (`localeList_follows_array`).
-/

set_option autoImplicit false

namespace AdaptiveTree

open Key (maxIndex indexText)

namespace Object

/-! ## The indices of an array -/

variable {o : Object}

/-- An index present in an array is collected from the vector or from the table. -/
theorem Present.mem_collected {i : UInt32} (h : o.Present i) :
    i ∈ (List.range o.elements.size).map UInt32.ofNat ++
      o.properties.entries.filterMap fun e => Key.parseIndex? e.1 := by
  obtain hdense | ⟨v, hnamed⟩ := h.dense_or_named
  · refine List.mem_append_left _ (List.mem_map.2 ⟨i.toNat, List.mem_range.2 hdense, ?_⟩)
    exact UInt32.ofNat_toNat
  · obtain ⟨before, after, hentries, -⟩ := List.lookup_eq_some_iff.1 hnamed
    refine List.mem_append_right _ (List.mem_filterMap.2 ⟨(indexText i, v), ?_, ?_⟩)
    · simp [hentries]
    · exact Key.parseIndex?_indexText h.1

theorem mem_ownIndices (hb : o.Bounded) (ha : o.kind = .array) {i : UInt32} :
    i ∈ o.ownIndices ↔ o.Present i := by
  simp only [ownIndices, List.mem_filter, List.mem_mergeSort, List.mem_eraseDups,
    Bool.and_eq_true, decide_eq_true_eq]
  constructor
  · rintro ⟨-, hlt, hown⟩
    refine ⟨?_, hown⟩
    have hi := UInt32.lt_iff_toNat_lt.1 hlt
    have hlength := o.length.toNat_lt
    unfold maxIndex
    omega
  · intro h
    exact ⟨h.mem_collected, h.lt_length hb ha, h.2⟩

end Object

/-! ## Lists -/

section Lists

variable {α β ι : Type}

/-- Without repetitions, an element stands where it occurs first: up to a place of it no element
that comes later has been met. -/
theorem pairwise_eraseDups [BEq α] [LawfulBEq α] (f : ι → Option α) (is : List ι) :
    (is.filterMap f).eraseDups.Pairwise fun a b =>
      ∃ before i after, is = before ++ i :: after ∧ f i = some a ∧
        ∀ j ∈ before ++ [i], f j ≠ some b := by
  induction is generalizing f with
  | nil => simp
  | cons i is ih =>
    cases hf : f i with
    | none =>
      rw [List.filterMap_cons_none hf]
      refine (ih f).imp ?_
      rintro a b ⟨before, k, after, rfl, hk, hbefore⟩
      exact ⟨i :: before, k, after, rfl, hk, by simpa [hf] using hbefore⟩
    | some c =>
      rw [List.filterMap_cons_some hf, List.eraseDups_cons, List.filter_filterMap]
      have hne : ∀ b ∈ (is.filterMap fun j => (f j).filter fun b => !b == c).eraseDups, b ≠ c := by
        intro b hb
        rw [List.mem_eraseDups, List.mem_filterMap] at hb
        obtain ⟨j, -, hj⟩ := hb
        simpa using (Option.filter_eq_some_iff.1 hj).2
      refine List.pairwise_cons.2 ⟨fun b hb => ?_, (ih _).imp_of_mem fun ha hb => ?_⟩
      · exact ⟨[], i, is, rfl, hf, by simpa [hf] using (hne b hb).symm⟩
      · rintro ⟨before, k, after, rfl, hk, hbefore⟩
        refine ⟨i :: before, k, after, rfl, (Option.filter_eq_some_iff.1 hk).1, fun j hj hfj => ?_⟩
        rcases List.mem_cons.1 hj with rfl | hj
        · rw [hf] at hfj
          exact hne _ hb (Option.some.inj hfj).symm
        · exact hbefore j hj (Option.filter_eq_some_iff.2 ⟨hfj, by simpa using hne _ hb⟩)

theorem nodup_eraseDups [BEq α] [LawfulBEq α] (as : List α) : as.eraseDups.Nodup := by
  have h := pairwise_eraseDups some as
  rw [List.filterMap_some] at h
  refine h.imp ?_
  rintro a b ⟨before, c, after, -, hc, hbefore⟩ rfl
  exact hbefore c (by simp) hc

/-- A traversal that succeeds finds something at each element, and gives all that is found. -/
theorem mapM_eq_ok {ε : Type} {f : α → Except ε β} {p : α → Option β}
    (hp : ∀ x y, f x = .ok y ↔ p x = some y) {xs : List α} {ys : List β} :
    xs.mapM f = .ok ys ↔ (∀ x ∈ xs, p x ≠ none) ∧ ys = xs.filterMap p := by
  induction xs generalizing ys with
  | nil => simp [pure, Except.pure, eq_comm]
  | cons x xs ih =>
    rw [List.mapM_cons]
    cases hx : f x with
    | error e =>
      have hnone : p x = none := by
        cases hpx : p x with
        | none => rfl
        | some y => cases hx.symm.trans ((hp x y).2 hpx)
      simp [bind, Except.bind, hnone]
    | ok y =>
      have hsome := (hp x y).1 hx
      cases hxs : xs.mapM f with
      | error e =>
        have hfails : ¬ ∀ z ∈ xs, p z ≠ none := fun hall => by
          cases hxs.symm.trans (ih.2 ⟨hall, rfl⟩)
        simpa [bind, Except.bind, hsome] using fun hall _ => absurd hall hfails
      | ok zs =>
        obtain ⟨hall, rfl⟩ := ih.1 hxs
        rw [List.forall_mem_cons, List.filterMap_cons_some hsome]
        simpa [bind, Except.bind, pure, Except.pure, hsome, eq_comm] using fun _ => hall

/-- A traversal that fails ends at the first element that fails. -/
theorem mapM_eq_error {ε : Type} {f : α → Except ε β} {xs : List α} {e : ε} :
    xs.mapM f = .error e ↔
      ∃ before x after, xs = before ++ x :: after ∧ f x = .error e ∧
        ∀ z ∈ before, ∃ y, f z = .ok y := by
  induction xs with
  | nil => simp [pure, Except.pure]
  | cons x xs ih =>
    rw [List.mapM_cons]
    cases hx : f x with
    | error e' =>
      constructor
      · rintro ⟨⟩
        exact ⟨[], x, xs, rfl, hx, by simp⟩
      · rintro ⟨before, z, after, hxs, hz, hbefore⟩
        cases before with
        | nil =>
          obtain ⟨rfl, -⟩ := List.cons.inj hxs
          cases hx.symm.trans hz
          rfl
        | cons b before =>
          obtain ⟨rfl, -⟩ := List.cons.inj hxs
          obtain ⟨y, hy⟩ := hbefore x List.mem_cons_self
          cases hx.symm.trans hy
    | ok y =>
      have hrest : (.ok y >>= fun y => xs.mapM f >>= fun ys => pure (y :: ys)) = Except.error e ↔
          xs.mapM f = .error e := by
        cases xs.mapM f <;> simp [bind, Except.bind, pure, Except.pure]
      rw [hrest, ih]
      constructor
      · rintro ⟨before, z, after, rfl, hz, hbefore⟩
        exact ⟨x :: before, z, after, rfl, hz, by simpa [hx] using hbefore⟩
      · rintro ⟨before, z, after, hxs, hz, hbefore⟩
        cases before with
        | nil =>
          obtain ⟨rfl, -⟩ := List.cons.inj hxs
          cases hx.symm.trans hz
        | cons b before =>
          obtain ⟨-, rfl⟩ := List.cons.inj hxs
          exact ⟨before, z, after, rfl, hz, fun u hu => hbefore u (List.mem_cons_of_mem _ hu)⟩

end Lists

namespace Object

theorem ownIndices_sorted (o : Object) : o.ownIndices.Pairwise (· < ·) := by
  have hcollect : ∀ is : List UInt32, (is.eraseDups.mergeSort (· ≤ ·)).Pairwise (· < ·) := by
    intro is
    have hnodup : (is.eraseDups.mergeSort (· ≤ ·)).Nodup :=
      (List.mergeSort_perm _ _).nodup_iff.2 (nodup_eraseDups is)
    have hsorted : (is.eraseDups.mergeSort (· ≤ ·)).Pairwise fun i j : UInt32 => decide (i ≤ j) :=
      List.pairwise_mergeSort (fun _ _ _ => by simpa using UInt32.le_trans)
        (fun _ _ => by simpa using UInt32.le_total _ _) is.eraseDups
    refine (hsorted.and hnodup).imp fun h => ?_
    exact UInt32.lt_of_le_of_ne (by simpa using h.1) h.2
  exact (hcollect _).filter _

end Object

/-- In an ascending list, the indices before one of them are those below it. -/
theorem mem_before_iff {before after : List UInt32} {i j : UInt32}
    (hsorted : (before ++ i :: after).Pairwise (· < ·)) :
    j ∈ before ↔ j ∈ before ++ i :: after ∧ j < i := by
  obtain ⟨-, hafter, hbefore⟩ := List.pairwise_append.1 hsorted
  refine ⟨fun hj => ⟨List.mem_append_left _ hj, hbefore j hj i List.mem_cons_self⟩, ?_⟩
  rintro ⟨hj, hlt⟩
  refine (List.mem_append.1 hj).resolve_right fun hge => ?_
  rcases List.mem_cons.1 hge with rfl | hge
  · exact UInt32.lt_irrefl j hlt
  · exact UInt32.lt_irrefl j (UInt32.lt_trans hlt (List.rel_of_pairwise_cons hafter hge))

namespace Locale

/-! ## Values that stand for tags -/

/-- The canonical form of a value that is a text and a language tag. -/
def tagOf? : Value → Option String
  | .string s => canonicalTag? s
  | _ => none

/-- What is said of a value that is no tag: a text is not well formed, and any other value is not a
text. -/
def refusal : Value → Fault
  | .string s => .invalidTag s
  | v => .localeNotString v.typeName

theorem tagOfValue_eq (v : Value) :
    tagOfValue v = match tagOf? v with
      | some tag => .ok tag
      | none => .error (refusal v) := by
  cases v with
  | string s => cases hs : canonicalTag? s <;> simp [tagOfValue, tagOf?, refusal, hs]
  | _ => rfl

theorem tagOfValue_eq_ok {v : Value} {tag : String} :
    tagOfValue v = .ok tag ↔ tagOf? v = some tag := by
  rw [tagOfValue_eq]
  cases tagOf? v <;> simp

theorem tagOfValue_eq_error {v : Value} {e : Fault} :
    tagOfValue v = .error e ↔ tagOf? v = none ∧ e = refusal v := by
  rw [tagOfValue_eq]
  cases tagOf? v <;> simp [eq_comm]

theorem category_refusal (v : Value) :
    (refusal v).category = .range ∧ (∃ s, v = .string s) ∨
      (refusal v).category = .type ∧ ∀ s, v ≠ .string s := by
  cases v with
  | string s => exact .inl ⟨rfl, s, rfl⟩
  | _ => exact .inr ⟨rfl, by simp⟩

/-! ## Lists of locales -/

/-- The tags of the values at the indices that are present, each where it occurs first. -/
structure Lists (o : Object) (tags : List String) : Prop where
  mem : ∀ tag, tag ∈ tags ↔ ∃ i, o.Present i ∧ tagOf? (o.get (.index i)) = some tag
  order : tags.Pairwise fun tag other =>
    ∃ i, o.Present i ∧ tagOf? (o.get (.index i)) = some tag ∧
      ∀ j, o.Present j → tagOf? (o.get (.index j)) = some other → i < j

theorem Lists.nodup {o : Object} {tags : List String} (h : Lists o tags) : tags.Nodup := by
  refine h.order.imp ?_
  rintro tag other ⟨i, hi, htag, hother⟩ rfl
  exact absurd (hother i hi htag) (UInt32.lt_irrefl i)

/-- There is only one list of the tags of an object. -/
theorem Lists.unique {o : Object} {tags tags' : List String} (h : Lists o tags)
    (h' : Lists o tags') : tags = tags' := by
  have hperm : tags.Perm tags' :=
    (List.perm_ext_iff_of_nodup h.nodup h'.nodup).2 fun tag => by rw [h.mem, h'.mem]
  refine hperm.eq_of_pairwise ?_ h.order h'.order
  rintro tag other - - ⟨i, hi, htag, hother⟩ ⟨j, hj, hother', htag'⟩
  exact absurd (UInt32.lt_trans (hother j hj hother') (htag' i hi htag)) (UInt32.lt_irrefl i)

theorem lists_filterMap {o : Object} {is : List UInt32} (hsorted : is.Pairwise (· < ·))
    (hmem : ∀ i, i ∈ is ↔ o.Present i) :
    Lists o (is.filterMap fun i => tagOf? (o.get (.index i))).eraseDups where
  mem tag := by simp only [List.mem_eraseDups, List.mem_filterMap, hmem]
  order := by
    refine (pairwise_eraseDups _ is).imp ?_
    rintro tag other ⟨before, i, after, rfl, htag, hother⟩
    refine ⟨i, (hmem i).1 (by simp), htag, fun j hj hjother => ?_⟩
    have hafter : j ∈ after := by
      have hj := (hmem j).2 hj
      rw [← List.singleton_append, ← List.append_assoc, List.mem_append] at hj
      exact hj.resolve_left fun hbefore => hother j hbefore hjother
    exact List.rel_of_pairwise_cons (List.pairwise_append.1 hsorted).2.1 hafter

/-- The list of locales of an object, by its indices. -/
theorem localeList_object (h : Heap) (id : Nat) :
    localeList h (.object id) =
      match (h.get id).ownIndices.mapM fun i => tagOfValue ((h.get id).get (.index i)) with
      | .error e => .error e
      | .ok tags => .ok tags.eraseDups := by
  simp only [localeList, localeValues, List.mapM_map]
  rfl

section Array

variable {h : Heap} {id : Nat} (ha : (h.get id).ReachableArray)

include ha

theorem localeList_eq_ok {tags : List String} :
    localeList h (.object id) = .ok tags ↔
      (∀ i, (h.get id).Present i → tagOf? ((h.get id).get (.index i)) ≠ none) ∧
        Lists (h.get id) tags := by
  have hmem := fun i => Object.mem_ownIndices ha.bounded ha.kind (i := i)
  have hlists := lists_filterMap (h.get id).ownIndices_sorted hmem
  simp only [← hmem]
  rw [localeList_object]
  constructor
  · intro hok
    split at hok
    · cases hok
    · rename_i found hfound
      obtain ⟨hall, rfl⟩ := (mapM_eq_ok fun i _ => tagOfValue_eq_ok).1 hfound
      cases hok
      exact ⟨hall, hlists⟩
  · rintro ⟨hall, htags⟩
    rw [(mapM_eq_ok fun i _ => tagOfValue_eq_ok).2 ⟨hall, rfl⟩, htags.unique hlists]

theorem localeList_eq_error {e : Fault} :
    localeList h (.object id) = .error e ↔
      ∃ i, (h.get id).Present i ∧ tagOf? ((h.get id).get (.index i)) = none ∧
        e = refusal ((h.get id).get (.index i)) ∧
        ∀ j, (h.get id).Present j → j < i → tagOf? ((h.get id).get (.index j)) ≠ none := by
  have hmem := fun i => Object.mem_ownIndices ha.bounded ha.kind (i := i)
  have hsorted := (h.get id).ownIndices_sorted
  have hok : ∀ v, (∃ tag, tagOfValue v = .ok tag) ↔ tagOf? v ≠ none := by
    intro v
    simp only [tagOfValue_eq_ok, Option.ne_none_iff_exists']
  have hfails : localeList h (.object id) = .error e ↔
      (h.get id).ownIndices.mapM (fun i => tagOfValue ((h.get id).get (.index i))) = .error e := by
    rw [localeList_object]
    split <;> simp [*]
  simp only [hfails, mapM_eq_error, tagOfValue_eq_error, hok, ← hmem]
  constructor
  · rintro ⟨before, i, after, hindices, ⟨hnone, rfl⟩, hbefore⟩
    rw [hindices] at hsorted ⊢
    exact ⟨i, by simp, hnone, rfl, fun j hj hlt => hbefore j ((mem_before_iff hsorted).2 ⟨hj, hlt⟩)⟩
  · rintro ⟨i, hi, hnone, rfl, hlowest⟩
    obtain ⟨before, after, hindices⟩ := List.append_of_mem hi
    rw [hindices] at hsorted hlowest
    refine ⟨before, i, after, hindices, ⟨hnone, rfl⟩, fun j hj => ?_⟩
    obtain ⟨hj, hlt⟩ := (mem_before_iff hsorted).1 hj
    exact hlowest j hj hlt

end Array

/-! ## The list as an array -/

theorem Lists.length_le {o : Object} (ha : o.ReachableArray) {tags : List String}
    (h : Lists o tags) : tags.length ≤ o.length.toNat := by
  have hmem := fun i => Object.mem_ownIndices ha.bounded ha.kind (i := i)
  have htags : tags ⊆ o.ownIndices.filterMap fun i => tagOf? (o.get (.index i)) := by
    intro tag htag
    obtain ⟨i, hi, htag⟩ := (h.mem tag).1 htag
    exact List.mem_filterMap.2 ⟨i, (hmem i).2 hi, htag⟩
  have hbelow : o.ownIndices ⊆ (List.range o.length.toNat).map UInt32.ofNat := by
    intro i hi
    have hlt := ((hmem i).1 hi).lt_length ha.bounded ha.kind
    exact List.mem_map.2
      ⟨i.toNat, List.mem_range.2 (UInt32.lt_iff_toNat_lt.1 hlt), UInt32.ofNat_toNat⟩
  have hnodup : o.ownIndices.Nodup := o.ownIndices_sorted.imp UInt32.ne_of_lt
  calc tags.length
    _ ≤ (o.ownIndices.filterMap fun i => tagOf? (o.get (.index i))).length :=
      h.nodup.length_le_of_subset htags
    _ ≤ o.ownIndices.length := List.length_filterMap_le _ _
    _ ≤ ((List.range o.length.toNat).map UInt32.ofNat).length := hnodup.length_le_of_subset hbelow
    _ = o.length.toNat := by simp

/-- A tag of a list is its own canonical form. -/
theorem Lists.canonical {o : Object} {tags : List String} (h : Lists o tags) {tag : String}
    (htag : tag ∈ tags) : canonicalTag? tag = some tag := by
  obtain ⟨i, -, hi⟩ := (h.mem tag).1 htag
  cases hv : o.get (.index i) with
  | string s =>
    rw [hv] at hi
    exact (canonicalTag?_congr (eqUpToCase_of_canonicalTag? hi)).trans hi
  | _ => rw [hv] at hi; cases hi

/-- An array of values has them at their places. -/
theorem content?_array {values : List Value} (fits : values.length < 4294967296) {i : UInt32}
    (hi : i.toNat ≤ maxIndex) : (Object.array values).content? (.index i) = values[i.toNat]? :=
  (Refines.array fits).content (.index i) (Key.proper_index.2 hi)

section Tags

variable {tags : List String} (fits : tags.length < 4294967296)

include fits

theorem content?_tags {i : UInt32} {tag : String} (htag : tags[i.toNat]? = some tag) :
    i.toNat ≤ maxIndex ∧
      (Object.array (tags.map .string)).content? (.index i) = some (.string tag) := by
  have hlt : i.toNat < tags.length := (List.getElem?_eq_some_iff.1 htag).1
  have hi : i.toNat ≤ maxIndex := by unfold maxIndex; omega
  refine ⟨hi, ?_⟩
  rw [content?_array (by simpa using fits) hi, List.getElem?_map, htag]
  rfl

variable (hcanonical : ∀ tag ∈ tags, canonicalTag? tag = some tag)

include hcanonical

/-- An array of canonical tags has each of them at its place. -/
theorem present_tags {i : UInt32} {tag : String} :
    (Object.array (tags.map .string)).Present i ∧
        tagOf? ((Object.array (tags.map .string)).get (.index i)) = some tag ↔
      tags[i.toNat]? = some tag := by
  rw [Object.present_iff, Object.get_index]
  constructor
  · rintro ⟨⟨hi, v, hv⟩, htag⟩
    rw [hv] at htag
    rw [content?_array (by simpa using fits) hi, List.getElem?_map] at hv
    obtain ⟨t, ht, rfl⟩ := Option.map_eq_some_iff.1 hv
    have hsame := (hcanonical t (List.mem_of_getElem? ht)).symm.trans htag
    rwa [← Option.some.inj hsame]
  · intro htag
    obtain ⟨hi, hcontent⟩ := content?_tags fits htag
    rw [hcontent]
    exact ⟨⟨hi, _, rfl⟩, hcanonical tag (List.mem_of_getElem? htag)⟩

theorem lists_array (hnodup : tags.Nodup) : Lists (.array (tags.map .string)) tags where
  mem tag := by
    simp only [present_tags fits hcanonical, List.mem_iff_getElem?]
    constructor
    · rintro ⟨n, hn⟩
      have hlt := (List.getElem?_eq_some_iff.1 hn).1
      exact ⟨UInt32.ofNat n, by rwa [UInt32.toNat_ofNat_of_lt' (by simp [UInt32.size]; omega)]⟩
    · rintro ⟨i, hi⟩
      exact ⟨i.toNat, hi⟩
  order := by
    refine List.pairwise_iff_getElem.2 fun n m hn hm hlt => ?_
    have hplace : ∀ k, k < tags.length → (UInt32.ofNat k).toNat = k := fun k hk =>
      UInt32.toNat_ofNat_of_lt' (by simp [UInt32.size]; omega)
    refine ⟨UInt32.ofNat n, ?_⟩
    simp only [← and_assoc, present_tags fits hcanonical, hplace n hn]
    refine ⟨List.getElem?_eq_getElem hn, fun j hj hjm => ?_⟩
    obtain ⟨hj, hjm⟩ := List.getElem?_eq_some_iff.1 ((present_tags fits hcanonical).1 ⟨hj, hjm⟩)
    rw [UInt32.lt_iff_toNat_lt, hplace n hn, (hnodup.getElem_inj_iff).1 hjm]
    exact hlt

/-- The list of locales of an array of canonical tags, all different, is that of the array. -/
theorem localeList_array (hnodup : tags.Nodup) {h : Heap} {id : Nat}
    (harray : h.get id = .array (tags.map .string)) : localeList h (.object id) = .ok tags := by
  have hfits : (tags.map Value.string).length < 4294967296 := by simpa using fits
  refine (localeList_eq_ok (harray ▸ Object.reachableArray_array hfits)).2 ?_
  rw [harray]
  refine ⟨fun i hi => ?_, lists_array fits hcanonical hnodup⟩
  obtain ⟨hle, v, hv⟩ := Object.present_iff.1 hi
  rw [content?_array hfits hle, List.getElem?_map] at hv
  obtain ⟨tag, htag, -⟩ := Option.map_eq_some_iff.1 hv
  simp [((present_tags fits hcanonical).2 htag).2]

end Tags

/-- The list of locales of an array follows what is observed of it. The list has the canonical forms
of the values present, in the order of their indices, each where it occurs first; there is one
exactly if all these values are tags. Otherwise the value of the lowest index that is no tag is
refused, with a fault of type if it is not a text and of range if it is. A list has no repetitions,
and is the list of the array of its own tags. -/
theorem localeList_follows_array {h : Heap} {id : Nat} (ha : (h.get id).ReachableArray) :
    (∀ tags, localeList h (.object id) = .ok tags ↔
        (∀ i, (h.get id).Present i → tagOf? ((h.get id).get (.index i)) ≠ none) ∧
          Lists (h.get id) tags) ∧
      (∀ e, localeList h (.object id) = .error e ↔
        ∃ i, (h.get id).Present i ∧ tagOf? ((h.get id).get (.index i)) = none ∧
          e = refusal ((h.get id).get (.index i)) ∧
          ∀ j, (h.get id).Present j → j < i → tagOf? ((h.get id).get (.index j)) ≠ none) ∧
      (∀ v, (refusal v).category = .range ∧ (∃ s, v = .string s) ∨
        (refusal v).category = .type ∧ ∀ s, v ≠ .string s) ∧
      ∀ tags, localeList h (.object id) = .ok tags →
        tags.Nodup ∧
          ∀ (h' : Heap) (id' : Nat), h'.get id' = .array (tags.map .string) →
            localeList h' (.object id') = .ok tags := by
  refine ⟨fun _ => localeList_eq_ok ha, fun _ => localeList_eq_error ha, category_refusal,
    fun tags hok => ?_⟩
  have hlists := ((localeList_eq_ok ha).1 hok).2
  have fits := Nat.lt_of_le_of_lt (hlists.length_le ha) (h.get id).length.toNat_lt
  exact ⟨hlists.nodup, fun h' id' =>
    localeList_array fits (fun _ => hlists.canonical) hlists.nodup⟩

/-- A locale stored far behind two spellings of another one: it stands in the table, and what comes
before it in the vector begins with a hole. -/
theorem localeList_follows_array_sparse :
    let store (i : Int32) (tag : String) := Operation.put .empty (.int i) (.string tag) {}
    let o : Object :=
      { kind := .array, elements := #[none, some (.string "en-US"), some (.string "EN-us")],
        properties := ⟨[("5000", .string "de-at")]⟩, length := 5001, extensible := true,
        frozen := false, stores := 3 }
    let h : Heap := ⟨#[o]⟩
    (h.get 0).ReachableArray ∧
      o = (Object.operations.run (Start.array [] (by decide)).object
        [store 5000 "de-at", store 2 "EN-us", store 1 "en-US"]).2 ∧
      localeList h (.object 0) = .ok ["en-US", "de-AT"] ∧ Lists o ["en-US", "de-AT"] := by
  intro store o h
  have ho : o = (Object.operations.run (Start.array [] (by decide)).object
      [store 5000 "de-at", store 2 "EN-us", store 1 "en-US"]).2 := by cbv
  have ha : (h.get 0).ReachableArray := ⟨[], by decide, _, ho⟩
  have hindices : (h.get 0).ownIndices = [1, 2, 5000] := by
    have hcollected : ((List.range o.elements.size).map UInt32.ofNat ++
        o.properties.entries.filterMap fun e => Key.parseIndex? e.1).eraseDups =
        [0, 1, 2, 5000] := by decide +kernel
    have hsorted : ([0, 1, 2, 5000] : List UInt32).mergeSort (· ≤ ·) = [0, 1, 2, 5000] := by cbv
    show o.ownIndices = _
    rw [Object.ownIndices, hcollected, hsorted]
    decide +kernel
  have hlist : localeList h (.object 0) = .ok ["en-US", "de-AT"] := by
    rw [localeList_object, hindices]
    decide +kernel
  exact ⟨ha, ho, hlist, (((localeList_follows_array ha).1 _).1 hlist).2⟩

end Locale

end AdaptiveTree
