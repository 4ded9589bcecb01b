import AdaptiveTree.Proofs.Activation
import Mathlib.Algebra.BigOperators.Group.List.Basic
import Mathlib.Logic.Equiv.Defs

/-!
# Activations on separate data commute

When a routine is called several times and no object is reached by two of the activations, the order
of the calls does not matter (`calls_commute`): each activation gives the same value or the same
fault, and every object ends in the same state, up to the representation of numbers and the numbers
of the objects that the calls make. What the routine has learnt, from earlier calls or from these,
decides how it is evaluated and nothing else.

Each call ends as the run of its activation alone (`callAll_inOrder`), wherever it stands in the
order. The objects that the activations make form blocks of numbers, which are laid out one after
the other in the order of the calls. Two orders thus differ by a permutation of numbers that moves
whole blocks (`rearrangement`).
-/

set_option autoImplicit false

namespace AdaptiveTree

/-! ## Blocks of numbers -/

section Blocks

variable {ι : Type} (size : ι → Nat)

/-- Where the block of `i` begins, if the blocks are laid out in order from `start` on. -/
def position [DecidableEq ι] : Nat → List ι → ι → Nat
  | start, [], _ => start
  | start, j :: rest, i => if i = j then start else position (start + size j) rest i

/-- The block that a number lies in, and its offset there. -/
def locate? : Nat → List ι → Nat → Option (ι × Nat)
  | _, [], _ => none
  | start, j :: rest, id =>
    if id < start then none
    else if id < start + size j then some (j, id - start)
    else locate? (start + size j) rest id

theorem locate?_eq_none {start : Nat} {order : List ι} {id : Nat} :
    locate? size start order id = none ↔ id < start ∨ start + (order.map size).sum ≤ id := by
  induction order generalizing start with
  | nil => simp [locate?]; omega
  | cons j rest ih =>
    unfold locate?
    split
    · simp_all
    · split
      · simp; omega
      · rw [ih]
        simp only [List.map_cons, List.sum_cons]
        omega

variable [DecidableEq ι]

theorem le_position (start : Nat) (order : List ι) (i : ι) :
    start ≤ position size start order i := by
  induction order generalizing start with
  | nil => exact Nat.le_refl start
  | cons j rest ih =>
    unfold position
    split
    · exact Nat.le_refl start
    · exact Nat.le_trans (Nat.le_add_right _ _) (ih _)

theorem locate?_eq_some {start : Nat} {order : List ι} (hnodup : order.Nodup) {id x : Nat} {i : ι} :
    locate? size start order id = some (i, x) ↔
      i ∈ order ∧ x < size i ∧ id = position size start order i + x := by
  induction order generalizing start with
  | nil => simp [locate?]
  | cons j rest ih =>
    obtain ⟨hj, hrest⟩ := List.nodup_cons.1 hnodup
    have hle := le_position size (start + size j) rest i
    simp only [locate?, position]
    by_cases hij : i = j
    · subst hij
      have hnot : locate? size (start + size i) rest id ≠ some (i, x) := fun h =>
        hj ((ih hrest).1 h).1
      simp only [List.mem_cons_self, true_and, if_true]
      split
      · simp only [reduceCtorEq, false_iff]
        omega
      · split
        · simp only [Option.some.injEq, Prod.mk.injEq, true_and]
          omega
        · simp only [hnot, false_iff]
          omega
    · have hmem : i ∈ j :: rest ↔ i ∈ rest := by simp [hij]
      rw [if_neg hij, hmem]
      split
      · simp only [reduceCtorEq, false_iff]
        omega
      · split
        · simp only [Option.some.injEq, Prod.mk.injEq, Ne.symm hij, false_and, false_iff]
          omega
        · exact ih hrest

/-- The number in one layout of the blocks, in another one. -/
def rearrange (start : Nat) (order order' : List ι) (id : Nat) : Nat :=
  match locate? size start order id with
  | some (i, x) => position size start order' i + x
  | none => id

variable {size}

theorem rearrange_position {start : Nat} {order : List ι} (hnodup : order.Nodup) (order' : List ι)
    {i : ι} (hi : i ∈ order) {x : Nat} (hx : x < size i) :
    rearrange size start order order' (position size start order i + x) =
      position size start order' i + x := by
  unfold rearrange
  rw [(locate?_eq_some size hnodup).2 ⟨hi, hx, rfl⟩]

theorem rearrange_of_lt {start : Nat} (order order' : List ι) {id : Nat} (hid : id < start) :
    rearrange size start order order' id = id := by
  unfold rearrange
  rw [(locate?_eq_none size).2 (.inl hid)]

theorem rearrange_rearrange {start : Nat} {order order' : List ι} (hnodup : order.Nodup)
    (hperm : order.Perm order') (id : Nat) :
    rearrange size start order' order (rearrange size start order order' id) = id := by
  cases hid : locate? size start order id with
  | some p =>
    obtain ⟨i, x⟩ := p
    obtain ⟨hi, hx, rfl⟩ := (locate?_eq_some size hnodup).1 hid
    rw [rearrange_position hnodup order' hi hx,
      rearrange_position (hperm.nodup_iff.1 hnodup) order (hperm.mem_iff.1 hi) hx]
  | none =>
    have hsum : (order.map size).sum = (order'.map size).sum := (hperm.map size).sum_eq
    have hid' : locate? size start order' id = none := by
      rw [locate?_eq_none] at hid ⊢
      rwa [← hsum]
    simp only [rearrange, hid, hid']

variable (size) in
/-- Two layouts of the blocks differ by a permutation of the numbers. -/
def rearrangement (start : Nat) {order order' : List ι} (hnodup : order.Nodup)
    (hperm : order.Perm order') : Equiv.Perm Nat where
  toFun := rearrange size start order order'
  invFun := rearrange size start order' order
  left_inv := rearrange_rearrange hnodup hperm
  right_inv := rearrange_rearrange (hperm.nodup_iff.1 hnodup) hperm.symm

theorem rearrange_relocate {start : Nat} {order : List ι} (hnodup : order.Nodup)
    (order' : List ι) {i : ι} (hi : i ∈ order) {id : Nat} (hid : id < start + size i) :
    rearrange size start order order' (relocate start (position size start order i) id) =
      relocate start (position size start order' i) id := by
  unfold relocate
  split
  · rename_i hlt
    exact rearrange_of_lt order order' hlt
  · exact rearrange_position hnodup order' hi (by omega)

end Blocks

/-! ## Calls one after the other -/

section Sequence

variable {ι : Type} {w : World} {root : Node} {args : ι → List Value}

/-- What the run of an activation alone makes. -/
def made (d : Locale.Data) (root : Node) (frameSize : Nat) (w : World) (args : ι → List Value)
    (i : ι) : Counts :=
  ⟨(root.solo d frameSize w (args i)).2.heap.objects.size - w.heap.objects.size,
    (root.solo d frameSize w (args i)).2.formats - w.formats⟩

/-- The counts after the run alone are those before and what it made. -/
theorem Separate.counts_solo (hs : Separate w root args) (d : Locale.Data) (frameSize : Nat)
    (i : ι) :
    (root.solo d frameSize w (args i)).2.counts =
      ⟨w.counts.objects + (made d root frameSize w args i).objects,
        w.counts.formats + (made d root frameSize w args i).formats⟩ := by
  obtain ⟨hobjects, hformats⟩ := (hs.solo_contained d frameSize i).start
  simp only [Separate.lane, World.counts, Machine.counts] at hobjects hformats
  simp only [Machine.counts, World.counts, made, Counts.mk.injEq]
  omega

variable [DecidableEq ι]

/-- Where activations that are called in order from `start` on begin to make things. -/
def placement (size : ι → Counts) (start : Counts) (order : List ι) (i : ι) : Counts :=
  ⟨position (fun j => (size j).objects) start.objects order i,
    position (fun j => (size j).formats) start.formats order i⟩

/-- The calls of an order, from the world `u` to the world `u'`, all end as the runs alone. -/
structure InOrder (hs : Separate w root args) (d : Locale.Data) (frameSize : Nat) (order : List ι)
    (u : World) (results : List (Except Fault Value)) (u' : World) : Prop where
  objects : u'.heap.objects.size = u.heap.objects.size +
    (order.map fun i => (made d root frameSize w args i).objects).sum
  formats : u'.formats = u.formats +
    (order.map fun i => (made d root frameSize w args i).formats).sum
  found : ∀ i ∈ order, ∃ x, (order.zip results).lookup i = some x ∧
    Found (hs.lane i w.counts le_rfl) (root.solo d frameSize w (args i))
      (w.counts.move
        (placement (made d root frameSize w args) u.counts order i)) x u'.heap
  kept : ∀ id, id < u.heap.objects.size → (∀ i ∈ order, ¬ w.heap.Reaches (args i) id) →
    (u'.heap.get id).canon = (u.heap.get id).canon

/-- One more call at the front of an order. -/
theorem InOrder.cons {hs : Separate w root args} {d : Locale.Data} {frameSize : Nat} {i : ι}
    {rest : List ι} (hi : i ∉ rest) {u v u' : World} (hplace : w.counts ≤ u.counts)
    {x : Except Fault Value} {results : List (Except Fault Value)}
    (hcall : Settled (hs.lane i u.counts hplace) u.heap (root.solo d frameSize w (args i)) x v)
    (hrest : InOrder hs d frameSize rest v results u') :
    InOrder hs d frameSize (i :: rest) u (x :: results) u' := by
  have hobjects : v.heap.objects.size =
      u.heap.objects.size + (made d root frameSize w args i).objects := hcall.objects
  have hformats : v.formats = u.formats + (made d root frameSize w args i).formats := hcall.formats
  constructor
  case objects => rw [hrest.objects, hobjects, List.map_cons, List.sum_cons, Nat.add_assoc]
  case formats => rw [hrest.formats, hformats, List.map_cons, List.sum_cons, Nat.add_assoc]
  case found =>
    intro j hj
    rw [List.zip_cons_cons, List.lookup_cons]
    by_cases hji : j = i
    · subst hji
      have hplaced :
          placement (made d root frameSize w args) u.counts (j :: rest) j = u.counts := by
        simp [placement, position]
      rw [hplaced]
      refine ⟨x, by rw [beq_self_eq_true], hcall.found.result, fun id hid => ?_⟩
      replace hid : (hs.lane j u.counts hplace).Has _ id := hid
      -- the later calls leave what this one had alone
      refine (hrest.kept _ ?_ fun k hk => ?_).trans (hcall.found.get id hid)
      · rw [hcall.objects]
        exact Lane.shift_lt hid (hs.solo_contained d frameSize j).start.1
      · have hjk : j ≠ k := by
          rintro rfl
          exact hi hk
        exact hs.not_reaches_shift hjk hplace hid
    · obtain ⟨y, hy, hfound⟩ := hrest.found j (List.mem_of_ne_of_mem hji hj)
      have hplaced : placement (made d root frameSize w args) u.counts (i :: rest) j =
          placement (made d root frameSize w args) v.counts rest j := by
        simp only [placement, position, if_neg hji, World.counts, hobjects, hformats]
      rw [hplaced, beq_false_of_ne hji]
      exact ⟨y, hy, hfound⟩
  case kept =>
    intro id hid hnone
    rw [List.forall_mem_cons] at hnone
    refine (hrest.kept id ?_ hnone.2).trans (hcall.kept id hid hnone.1)
    rw [hobjects]
    omega

/-- Each of the calls in an order ends as the run of its activation alone. -/
theorem callAll_inOrder (env : Env) (hs : Separate w root args) {order : List ι}
    (hnodup : order.Nodup) {r : Routine} (hroot : r.root = root) {u : World}
    (hplace : w.counts ≤ u.counts)
    (hu : ∀ i ∈ order, ∀ id, w.heap.Reaches (args i) id →
      (u.heap.get id).canon = (w.heap.get id).canon) :
    InOrder hs env.locales r.frameSize order u (r.callAll env u (order.map args)).1
      (r.callAll env u (order.map args)).2.2 := by
  induction order generalizing r u with
  | nil => exact ⟨rfl, rfl, nofun, fun _ _ _ => rfl⟩
  | cons i rest ih =>
    obtain ⟨hi, hrest⟩ := List.nodup_cons.1 hnodup
    subst hroot
    have hcall := hs.call_settled env r i hplace (hu i List.mem_cons_self)
    have hplace' : w.counts ≤ (r.call env u (args i)).world.counts :=
      ⟨Nat.le_trans hplace.1 (Nat.le.intro hcall.objects.symm),
        Nat.le_trans hplace.2 (Nat.le.intro hcall.formats.symm)⟩
    -- the others still find what they reach as it was
    have hu' : ∀ j ∈ rest, ∀ id, w.heap.Reaches (args j) id →
        ((r.call env u (args i)).world.heap.get id).canon = (w.heap.get id).canon := by
      intro j hj id hid
      have hne : j ≠ i := fun h => hi (h ▸ hj)
      have hlt := hs.closed.lt_of_reaches (hs.covered j) hid
      rw [hcall.kept id (Nat.lt_of_lt_of_le hlt hplace.1) (hs.disjoint j i hne id hid)]
      exact hu j (List.mem_cons_of_mem i hj) id hid
    exact .cons hi hplace hcall (ih hrest (r := (r.call env u (args i)).routine) rfl hplace' hu')

end Sequence

/-! ## Two orders -/

section Orders

variable {ι : Type} [DecidableEq ι] {w : World} {root : Node} {args : ι → List Value}

/-- How what is made in one order is called in another one. -/
def reordering (size : ι → Counts) (start : Counts) (order order' : List ι) : Renaming :=
  ⟨rearrange (fun i => (size i).objects) start.objects order order',
    rearrange (fun i => (size i).formats) start.formats order order'⟩

theorem rename_of_covers (size : ι → Counts) {start : Counts} (order order' : List ι) {v : Value}
    (hv : start.Covers v) : v.rename (reordering size start order order') = v := by
  cases v with
  | object id => exact congrArg Value.object (rearrange_of_lt order order' hv)
  | listFormat f =>
    have hid : (reordering size start order order').format f.id = f.id :=
      rearrange_of_lt order order' hv
    rw [Value.rename, hid]
  | _ => rfl

/-- A value of an activation has one name in the first order and another one in the second. -/
theorem rename_placement {size : ι → Counts} {start : Counts} {order : List ι}
    (hnodup : order.Nodup) (order' : List ι) {i : ι} (hi : i ∈ order) {v : Value}
    (hv : Counts.Covers ⟨start.objects + (size i).objects, start.formats + (size i).formats⟩ v) :
    (v.rename (start.move (placement size start order i))).rename
        (reordering size start order order') =
      v.rename (start.move (placement size start order' i)) := by
  cases v with
  | object id => exact congrArg Value.object (rearrange_relocate hnodup order' hi hv)
  | listFormat f =>
    have hid : (reordering size start order order').format
        ((start.move (placement size start order i)).format f.id) =
        (start.move (placement size start order' i)).format f.id :=
      rearrange_relocate hnodup order' hi hv
    rw [Value.rename, Value.rename, Value.rename, hid]
  | _ => rfl

section Reordered

variable {l : Lane} {s : Except Fault Value × Machine} {size : ι → Counts} {start : Counts}
  {order order' : List ι} {i : ι} {x x' : Except Fault Value} {h h' : Heap}

/-- The result of an activation in two orders. -/
theorem Found.result_reordered
    (hx : Found l s (start.move (placement size start order i)) x h)
    (hx' : Found l s (start.move (placement size start order' i)) x' h') (hs : Contained l s)
    (hsize : s.2.counts = ⟨start.objects + (size i).objects, start.formats + (size i).formats⟩)
    (hnodup : order.Nodup) (hi : i ∈ order) :
    (x.map fun v => (v.rename (reordering size start order order')).canon) =
      x'.map Value.canon := by
  have hresult := hx.result
  have hvalue := hs.value
  rw [hx'.result]
  cases hs1 : s.1 with
  | error e =>
    rw [hs1] at hresult
    cases x with
    | error e' => exact hresult
    | ok a => cases hresult
  | ok v =>
    rw [hs1] at hresult
    cases x with
    | error e' => cases hresult
    | ok a =>
      have ha : a.canon = (v.rename (start.move (placement size start order i))).canon :=
        Except.ok.inj hresult
      refine congrArg Except.ok ?_
      show (a.rename _).canon = (v.rename _).canon
      rw [Value.canon_rename, ha, ← Value.canon_rename,
        rename_placement hnodup order' hi (hsize ▸ hvalue v hs1)]

/-- An object of an activation in two orders. -/
theorem Found.get_reordered
    (hx : Found l s (start.move (placement size start order i)) x h)
    (hx' : Found l s (start.move (placement size start order' i)) x' h') (hs : Contained l s)
    (hsize : s.2.counts = ⟨start.objects + (size i).objects, start.formats + (size i).formats⟩)
    (hnodup : order.Nodup) (hi : i ∈ order) {id : Nat} (hid : l.Has s.2.heap.objects.size id) :
    ((h.get ((start.move (placement size start order i)).object id)).rename
        (reordering size start order order')).canon =
      (h'.get ((reordering size start order order').object
        ((start.move (placement size start order i)).object id))).canon := by
  have hlt : id < start.objects + (size i).objects := by
    have := hid.lt hs.start.1
    have := congrArg Counts.objects hsize
    simp only [Machine.counts] at this
    omega
  have hname : (reordering size start order order').object
      ((start.move (placement size start order i)).object id) =
      (start.move (placement size start order' i)).object id :=
    rearrange_relocate hnodup order' hi hlt
  rw [hname, hx'.get id hid, Object.canon_rename, hx.get id hid, ← Object.canon_rename]
  refine congrArg Object.canon ?_
  rw [Object.rename, Object.rename, Object.mapValues_mapValues]
  exact Object.mapValues_congr _ fun v hv =>
    rename_placement hnodup order' hi (hsize ▸ hs.held id hid v hv)

end Reordered

section InOrder

variable {hs : Separate w root args} {d : Locale.Data} {frameSize : Nat} {order order' : List ι}
  {u v u' v' : World} {results results' : List (Except Fault Value)} {π : Renaming}
  (hπ : π = reordering (made d root frameSize w args) w.counts order order')
  (h : InOrder hs d frameSize order u results u')
  (h' : InOrder hs d frameSize order' v results' v') (hu : u.heap = w.heap ∧ u.formats = w.formats)
  (hv : v.heap = w.heap ∧ v.formats = w.formats) (hperm : order.Perm order')

include hπ h h' hu hv hperm

/-- An object that an activation had. -/
theorem InOrder.get_found (hnodup : order.Nodup) {i : ι} (hi : i ∈ order) {id : Nat}
    (hid : (hs.lane i w.counts le_rfl).Has
      (root.solo d frameSize w (args i)).2.heap.objects.size id) {ρ : Renaming}
    (hρ : ρ = w.counts.move (placement (made d root frameSize w args) w.counts order i)) :
    ((u'.heap.get (ρ.object id)).rename π).canon =
      (v'.heap.get (π.object (ρ.object id))).canon := by
  have hucounts : u.counts = w.counts := by simp only [World.counts, hu.1, hu.2]
  have hvcounts : v.counts = w.counts := by simp only [World.counts, hv.1, hv.2]
  obtain ⟨x, -, hx⟩ := h.found i hi
  obtain ⟨x', -, hx'⟩ := h'.found i (hperm.mem_iff.1 hi)
  rw [hucounts] at hx
  rw [hvcounts] at hx'
  subst hπ hρ
  exact hx.get_reordered hx' (hs.solo_contained d frameSize i) (hs.counts_solo d frameSize i) hnodup
    hi hid

/-- An object that no activation reaches. -/
theorem InOrder.get_unreached {id : Nat} (hid : id < w.heap.objects.size)
    (hnone : ∀ i ∈ order, ¬ w.heap.Reaches (args i) id) :
    ((u'.heap.get id).rename π).canon = (v'.heap.get (π.object id)).canon := by
  have hsame : π.object id = id := by
    subst hπ
    exact rearrange_of_lt order order' hid
  have hfixed : (w.heap.get id).rename π = w.heap.get id := by
    subst hπ
    exact Object.mapValues_eq_self fun x hx => rename_of_covers _ order order' (hs.closed id x hx)
  rw [hsame, Object.canon_rename, h.kept id (hu.1 ▸ hid) hnone, hu.1, ← Object.canon_rename, hfixed,
    h'.kept id (hv.1 ▸ hid) fun i hi => hnone i (hperm.mem_iff.2 hi), hv.1]

/-- Every object after the calls in one order, and after the calls in another one. -/
theorem InOrder.get_reordered (hnodup : order.Nodup) (id : Nat) :
    ((u'.heap.get id).rename π).canon = (v'.heap.get (π.object id)).canon := by
  by_cases hold : id < w.heap.objects.size
  · by_cases hreach : ∃ i ∈ order, w.heap.Reaches (args i) id
    · obtain ⟨i, hi, hreach⟩ := hreach
      have hhas : (hs.lane i w.counts le_rfl).Has
          (root.solo d frameSize w (args i)).2.heap.objects.size id := .inl hreach
      have hown := h.get_found hπ h' hu hv hperm hnodup hi hhas rfl
      have hid : (w.counts.move (placement (made d root frameSize w args) w.counts order i)).object
          id = id := if_pos hold
      rwa [hid] at hown
    · refine h.get_unreached hπ h' hu hv hperm hold ?_
      exact fun i hi hr => hreach ⟨i, hi, hr⟩
  · cases hlocate : locate? (fun i => (made d root frameSize w args i).objects)
      w.heap.objects.size order id with
    | some p =>
      obtain ⟨i, x⟩ := p
      obtain ⟨hi, hx, hid⟩ := (locate?_eq_some _ hnodup).1 hlocate
      have hname :
          (w.counts.move (placement (made d root frameSize w args) w.counts order i)).object
            (w.heap.objects.size + x) = id := by
        simp only [Counts.move, relocate, World.counts, placement]
        rw [if_neg (by omega), hid]
        omega
      have hhas : (hs.lane i w.counts le_rfl).Has
          (root.solo d frameSize w (args i)).2.heap.objects.size (w.heap.objects.size + x) := by
        simp only [made] at hx
        exact .inr ⟨Nat.le_add_right _ _, by omega⟩
      have hnew := h.get_found hπ h' hu hv hperm hnodup hi hhas rfl
      rwa [hname] at hnew
    | none =>
      -- beyond all objects
      have hsame : π.object id = id := by
        subst hπ
        simp only [reordering, rearrange, World.counts, hlocate]
      have hge : w.heap.objects.size +
          (order.map fun i => (made d root frameSize w args i).objects).sum ≤ id :=
        ((locate?_eq_none _).1 hlocate).resolve_left hold
      have hu' : u'.heap.objects.size ≤ id := by rwa [h.objects, hu.1]
      have hv' : v'.heap.objects.size ≤ id := by rwa [h'.objects, hv.1, ← (hperm.map _).sum_eq]
      rw [hsame, Heap.get_of_size_le hu', Heap.get_of_size_le hv', Object.rename,
        Object.mapValues_default]

end InOrder

end Orders

/-- Two sequences of calls end the same: with the same results for each activation and the same
objects, up to the representation of numbers and new names for what was made on the way. -/
structure Agree {ι : Type} [DecidableEq ι] (w : World) (order order' : List ι)
    (o o' : List (Except Fault Value) × Routine × World) (objects formats : Equiv.Perm Nat) :
    Prop where
  /-- What was there before keeps its name. -/
  oldObjects : ∀ id, id < w.heap.objects.size → objects id = id
  oldFormats : ∀ id, id < w.formats → formats id = id
  result : ∀ i ∈ order, ∃ x x', (order.zip o.1).lookup i = some x ∧
    (order'.zip o'.1).lookup i = some x' ∧
    (x.map fun v => (v.rename ⟨objects, formats⟩).canon) = x'.map Value.canon
  counts : o.2.2.counts = o'.2.2.counts
  object : ∀ id, ((o.2.2.heap.get id).rename ⟨objects, formats⟩).canon =
    (o'.2.2.heap.get (objects id)).canon

/-- The order in which a routine is called on separate data does not matter, and neither does what
it has learnt before, nor whether it may use the typed channels. -/
theorem calls_commute {ι : Type} [DecidableEq ι] (env : Env) (r : Routine) (w : World)
    (args : ι → List Value) (hs : Separate w r.root args) (order order' : List ι)
    (hnodup : order.Nodup) (hperm : order.Perm order') (speculating recording : Bool)
    (profile : Profile) (observed epoch : Nat) (trace : List Event) :
    ∃ objects formats, Agree w order order' (r.callAll env w (order.map args))
      (Routine.callAll { env with speculating, recording } { r with profile, observed }
        { w with epoch, trace } (order'.map args)) objects formats := by
  have hrun := callAll_inOrder env hs hnodup (r := r) rfl le_rfl fun _ _ _ _ => rfl
  have hrun' := callAll_inOrder { env with speculating, recording } hs (hperm.nodup_iff.1 hnodup)
    (r := { r with profile, observed }) rfl (u := { w with epoch, trace }) le_rfl fun _ _ _ _ => rfl
  let size := made env.locales r.root r.frameSize w args
  refine ⟨rearrangement (fun i => (size i).objects) w.heap.objects.size hnodup hperm,
    rearrangement (fun i => (size i).formats) w.formats hnodup hperm, ?_⟩
  constructor
  case oldObjects => exact fun id hid => rearrange_of_lt order order' hid
  case oldFormats => exact fun id hid => rearrange_of_lt order order' hid
  case result =>
    intro i hi
    obtain ⟨x, hx, hfound⟩ := hrun.found i hi
    obtain ⟨x', hx', hfound'⟩ := hrun'.found i (hperm.mem_iff.1 hi)
    refine ⟨x, x', hx, hx', ?_⟩
    exact hfound.result_reordered hfound' (hs.solo_contained env.locales r.frameSize i)
      (hs.counts_solo env.locales r.frameSize i) hnodup hi
  case counts =>
    simp only [World.counts, hrun.objects, hrun'.objects, hrun.formats, hrun'.formats,
      (hperm.map _).sum_eq]
  case object => exact hrun.get_reordered rfl hrun' ⟨rfl, rfl⟩ ⟨rfl, rfl⟩ hperm hnodup

/-- Two arrays, in each of which an element is increased and a new list format is stored. -/
theorem calls_commute_two_arrays :
    let increase := ((Builder.mk {}).compoundAssign ⟨#["a", "i"], 0⟩ .add (.read {} 0) (.read {} 1)
      (.const {} (.int 1))).1
    let store : Node := .writeElement {} {} (.read {} 0) (.const {} (.string "format"))
      (.listFormat {} (.const {} .undefined) (.const {} .undefined))
    let r : Routine := .ofRoot (.sequence {} [increase, store]) 4 0
    let w : World := { heap := ⟨#[.array [.int 7], .array [.int 8]]⟩ }
    let args : Fin 2 → List Value := fun i => [.object i, .string "0"]
    let env : Env := ⟨true, false, ⟨"en", ["en"]⟩⟩
    Separate w r.root args ∧
      ∃ objects formats, Agree w ([0, 1] : List (Fin 2)) [1, 0] (r.callAll env w ([0, 1].map args))
        (r.callAll env w ([1, 0].map args)) objects formats := by
  intro increase store r w args env
  have hheld : ∀ id v, (w.heap.get id).Holds v → v = .int 7 ∨ v = .int 8 := by
    intro id v hv
    match id with
    | 0 => exact .inl (by simpa using Object.holds_array hv)
    | 1 => exact .inr (by simpa using Object.holds_array hv)
    | id + 2 => exact absurd hv (Object.not_holds_default v)
  have hreach : ∀ i id, w.heap.Reaches (args i) id → id = i := by
    intro i id h
    induction h with
    | root hid => simpa [args] using hid
    | held _ hheld' _ => rcases hheld _ _ hheld' with h | h <;> cases h
  have hconst : r.root.constants = [.int 1, .string "format", .undefined, .undefined] := rfl
  have hs : Separate w r.root args := by
    constructor
    case cached => decide
    case noObjects => simp [hconst]
    case constants => simp [hconst, Counts.Covers]
    case closed =>
      intro id v hv
      rcases hheld id v hv with rfl | rfl <;> trivial
    case covered =>
      intro i v hv
      obtain rfl | rfl : v = .object i ∨ v = .string "0" := by simpa [args] using hv
      · exact i.isLt
      · trivial
    case disjoint =>
      intro i j hij id hi hj
      exact hij (Fin.ext ((hreach i id hi).symm.trans (hreach j id hj)))
  exact ⟨hs, calls_commute env r w args hs [0, 1] [1, 0] (by decide) (List.Perm.swap _ _ _) true
    false r.profile 0 0 []⟩

end AdaptiveTree
