import AdaptiveTree.Proofs.Exec.Mirror
import AdaptiveTree.Proofs.Speculation
import AdaptiveTree.Routine

/-!
# Activations on their own data

An activation can touch the objects that its arguments reach, and no others of those that are there
when it starts. `solo` is the run of an activation in a given world, without any observations. A
call of the routine in a later world, in which the objects that the activation reaches are as they
were, ends as the run alone does (`call_settled`): with the same result, with the same objects,
under the numbers that are free by then, and with all other objects unchanged.
-/

set_option autoImplicit false

namespace AdaptiveTree

open Exec

/-! ## Reached objects -/

/-- The object is among the values, or held by an object that they reach. -/
inductive Heap.Reaches (h : Heap) (vs : List Value) : Nat → Prop
  | root {id : Nat} (hid : .object id ∈ vs) : Reaches h vs id
  | held {id id' : Nat} (hid : Reaches h vs id) (hheld : (h.get id).Holds (.object id')) :
    Reaches h vs id'

namespace World

/-- How many objects and list formats there are. -/
def counts (w : World) : Counts :=
  ⟨w.heap.objects.size, w.formats⟩

/-- Objects refer to what there is. -/
def Closed (w : World) : Prop :=
  ∀ id v, (w.heap.get id).Holds v → w.counts.Covers v

variable {w : World}

theorem Closed.lt_of_reaches (hw : w.Closed) {args : List Value}
    (hargs : ∀ v ∈ args, w.counts.Covers v) {id : Nat} (h : w.heap.Reaches args id) :
    id < w.heap.objects.size := by
  induction h with
  | root hid => exact hargs _ hid
  | held _ hheld _ => exact hw _ _ hheld

end World

/-! ## Activations on separate data -/

/-- The activations of a tree, each with its arguments, share no data: the tree holds no objects, it
reads the slots in which it keeps indices as indices only, everything refers to what there is, and
no object is reached by two activations. -/
structure Separate {ι : Type} (w : World) (root : Node) (args : ι → List Value) : Prop where
  cached : root.WellCached
  noObjects : ∀ v ∈ root.constants, ∀ id, v ≠ .object id
  constants : ∀ v ∈ root.constants, w.counts.Covers v
  closed : w.Closed
  covered : ∀ i, ∀ v ∈ args i, w.counts.Covers v
  disjoint : ∀ i j, i ≠ j → ∀ id, w.heap.Reaches (args i) id → ¬ w.heap.Reaches (args j) id

/-- The run of an activation alone, with all numbers as doubles at its start. -/
def Node.solo (d : Locale.Data) (root : Node) (frameSize : Nat) (w : World) (args : List Value) :
    Except Fault Value × Machine :=
  root.meaning d ⟨w.heap.canon, .ofArgs frameSize args, .empty, 0, [], w.formats⟩

namespace Frame

theorem get_ofArgs (size : Nat) (args : List Value) (s : Nat) :
    (ofArgs size args).get s ∈ args ∨ (ofArgs size args).get s = .undefined := by
  simp only [ofArgs, get, Array.getD_eq_getD_getElem?, Array.getElem?_append, List.size_toArray]
  split
  · rename_i hs
    exact .inl (by simp [hs])
  · refine .inr ?_
    rw [Array.getElem?_replicate]
    split <;> rfl

end Frame

namespace Separate

variable {ι : Type} {w : World} {root : Node} {args : ι → List Value}

/-- What belongs to an activation that is placed in a world with the given counts. -/
def lane (hs : Separate w root args) (i : ι) (place : Counts) (hplace : w.counts ≤ place) :
    Lane where
  own := w.heap.Reaches (args i)
  start := w.counts
  place := place
  own_lt _ := hs.closed.lt_of_reaches (hs.covered i)
  le := hplace

variable (hs : Separate w root args) (i : ι) {u : World} (hplace : w.counts ≤ u.counts)

theorem knows_of_covers {place : Counts} (hplace : w.counts ≤ place) {v : Value}
    (hv : w.counts.Covers v) (hobj : ∀ id, v = .object id → w.heap.Reaches (args i) id) :
    (hs.lane i place hplace).Knows w.counts v := by
  cases v with
  | object id => exact .inl (hobj id rfl)
  | listFormat f => exact hv
  | _ => trivial

/-- At its start, the activation has what it reaches, wherever it is placed. -/
theorem mirrors_start (frameSize : Nat)
    (hu : ∀ id, w.heap.Reaches (args i) id → (u.heap.get id).canon = (w.heap.get id).canon) :
    Mirrors (hs.lane i u.counts hplace) u.heap.canon
      ⟨w.heap.canon, .ofArgs frameSize (args i), .empty, 0, [], w.formats⟩
      ⟨u.heap.canon, .ofArgs frameSize (args i), .empty, 0, [], u.formats⟩ := by
  have hcounts : (⟨w.heap.canon, .ofArgs frameSize (args i), .empty, 0, [], w.formats⟩ :
      Machine).counts = w.counts := by
    simp [Machine.counts, World.counts]
  -- nothing has been made yet, so the lane has the objects that are reached
  have hown : ∀ id, (hs.lane i u.counts hplace).Has w.heap.canon.objects.size id →
      w.heap.Reaches (args i) id := by
    rintro id (hid | ⟨hge, hlt⟩)
    · exact hid
    · rw [Heap.size_canon] at hlt
      exact absurd hlt (Nat.not_lt_of_le hge)
  have hheld : ∀ id, w.heap.Reaches (args i) id → ∀ v, (w.heap.canon.get id).Holds v →
      (hs.lane i u.counts hplace).Knows w.counts v := by
    intro id hid v hv
    rw [Heap.get_canon, Object.canon_eq_mapValues] at hv
    obtain ⟨v', hv', rfl⟩ := Object.holds_mapValues hv
    have hknows := hs.knows_of_covers i hplace (hs.closed id v' hv') fun id' hid' =>
      .held hid (hid' ▸ hv')
    cases v' <;> exact hknows
  have hslot : ∀ s, (hs.lane i u.counts hplace).Knows w.counts
      ((Frame.ofArgs frameSize (args i)).get s) := by
    intro s
    rcases Frame.get_ofArgs frameSize (args i) s with hmem | hnone
    · exact hs.knows_of_covers i hplace (hs.covered i _ hmem) fun id hid => .root (hid ▸ hmem)
    · rw [hnone]
      trivial
  constructor
  case start => exact hcounts ▸ le_rfl
  case objects => simp [lane, World.counts]
  case formats => simp [lane, World.counts]
  case get =>
    intro id hid
    have hreach := hown id hid
    rw [Lane.shift_of_own (l := hs.lane i u.counts hplace) hreach, Heap.get_canon, hu id hreach,
      ← Heap.get_canon, Object.rename, Object.mapValues_eq_self]
    intro v hv
    exact (Named.of_start (hheld id hreach v hv)).1.symm
  case held => exact fun id hid v hv => hcounts ▸ hheld id (hown id hid) v hv
  case slot => exact fun s => (Named.of_start (hslot s)).1
  case known => exact fun s => hcounts ▸ hslot s
  case kept => exact fun _ _ _ => rfl

theorem named_constants {place : Counts} (hplace : w.counts ≤ place) {v : Value}
    (hv : v ∈ root.constants) :
    Named (hs.lane i place hplace) w.counts v v :=
  Named.of_start (hs.knows_of_covers i hplace (hs.constants v hv) fun id hid =>
    absurd hid (hs.noObjects v hv id))

/-- The run of an activation in another world mirrors its run alone. -/
theorem solo_mirrored (d : Locale.Data) (frameSize : Nat)
    (hu : ∀ id, w.heap.Reaches (args i) id → (u.heap.get id).canon = (w.heap.get id).canon) :
    Related (Mirrors (hs.lane i u.counts hplace) u.heap.canon)
      (fun v v' m n => Named (hs.lane i u.counts hplace) m.counts v v' ∧
        Mirrors (hs.lane i u.counts hplace) u.heap.canon m n)
      (root.solo d frameSize w (args i))
      (root.meaning d ⟨u.heap.canon, .ofArgs frameSize (args i), .empty, 0, [], u.formats⟩) := by
  have hrun : Mirrored (hs.lane i u.counts hplace) u.heap.canon w.counts
      (Named (hs.lane i u.counts hplace)) (root.meaning d) (root.meaning d) :=
    root.meaning_mirrored d (fun v hv => hs.named_constants i hplace hv) w.counts
  have hstart := hs.mirrors_start i hplace frameSize hu
  refine (hrun ⟨hstart, hstart.start⟩).mono (fun _ _ h => h) ?_
  rintro v v' m n ⟨hnamed, hmn, -⟩
  exact ⟨hnamed, hmn⟩

end Separate

/-! ## Calls -/

/-- The result and the objects of a run that ended with `s` are found under their new names. -/
structure Found (l : Lane) (s : Except Fault Value × Machine) (ρ : Renaming)
    (x : Except Fault Value) (h : Heap) : Prop where
  result : x.map Value.canon = s.1.map fun v => (v.rename ρ).canon
  get : ∀ id, l.Has s.2.heap.objects.size id →
    (h.get (ρ.object id)).canon = ((s.2.heap.get id).rename ρ).canon

/-- A call that gave `x` and left the world `u` ended as the run alone that ended with `s`: with the
same result and objects under their names there, and without a change of other objects. -/
structure Settled (l : Lane) (before : Heap) (s : Except Fault Value × Machine)
    (x : Except Fault Value) (u : World) : Prop where
  objects : u.heap.objects.size = l.place.objects + (s.2.heap.objects.size - l.start.objects)
  formats : u.formats = l.place.formats + (s.2.formats - l.start.formats)
  found : Found l s l.shift x u.heap
  kept : ∀ id, id < l.place.objects → ¬ l.own id → (u.heap.get id).canon = (before.get id).canon

/-- What a run ends with refers to what there is by then. -/
structure Contained (l : Lane) (s : Except Fault Value × Machine) : Prop where
  start : l.start ≤ s.2.counts
  value : ∀ v, s.1 = .ok v → s.2.counts.Covers v
  held : ∀ id, l.Has s.2.heap.objects.size id → ∀ v, (s.2.heap.get id).Holds v →
    s.2.counts.Covers v

theorem Mirrors.settled {l : Lane} {before : Heap} {m n p : Machine}
    (h : Mirrors l before.canon m n) (hheap : p.heap.canon = n.heap.canon)
    (hformats : p.formats = n.formats) {x y : Except Fault Value}
    (hresult : y.map Value.canon = x.map fun v => (v.rename l.shift).canon) :
    Settled l before (x, m) y ⟨p.heap, p.epoch, p.trace, p.formats⟩ where
  objects := by rw [← Heap.size_canon, hheap, Heap.size_canon, h.objects]
  formats := hformats.trans h.formats
  found := ⟨hresult, fun id hid => by
    rw [← Heap.get_canon, hheap, Heap.get_canon, h.get id hid]⟩
  kept id hid hown := by
    rw [← Heap.get_canon, hheap, Heap.get_canon, h.kept id hid hown, Heap.get_canon,
      Object.canon_canon]

namespace Separate

variable {ι : Type} {w u : World} {args : ι → List Value}

/-- Whatever the routine has learnt, a call of it ends as the run of the activation alone. -/
theorem call_settled (env : Env) (r : Routine) (hs : Separate w r.root args) (i : ι)
    (hplace : w.counts ≤ u.counts)
    (hu : ∀ id, w.heap.Reaches (args i) id → (u.heap.get id).canon = (w.heap.get id).canon) :
    Settled (hs.lane i u.counts hplace) u.heap (r.root.solo env.locales r.frameSize w (args i))
      (r.call env u (args i)).result (r.call env u (args i)).world := by
  have hstart : Alike r.root.caches (fun _ => none) (r.machine u (.ofArgs r.frameSize (args i)))
      ⟨u.heap.canon, .ofArgs r.frameSize (args i), .empty, 0, [], u.formats⟩ :=
    ⟨u.heap.canon_canon.symm, rfl, fun _ _ => .of_canon rfl, nofun, fun _ => rfl⟩
  have hmeans := (r.root.runner_means env 0 hs.cached (List.Subset.refl _) fun _ _ => rfl).generic
    hstart
  have hsolo := hs.solo_mirrored i hplace env.locales r.frameSize hu
  generalize ho : (r.root.runner env 0).generic (r.machine u (.ofArgs r.frameSize (args i))) = o
    at hmeans
  have hresult : (r.call env u (args i)).result = o.1 := by rw [← ho]; rfl
  have hworld : (r.call env u (args i)).world =
      ⟨o.2.heap, o.2.epoch, o.2.trace, o.2.formats⟩ := by rw [← ho]; rfl
  rw [hresult, hworld]
  clear hresult hworld ho
  generalize r.root.solo env.locales r.frameSize w (args i) = s at hsolo
  generalize r.root.meaning env.locales
    ⟨u.heap.canon, .ofArgs r.frameSize (args i), .empty, 0, [], u.formats⟩ = t at hmeans hsolo
  cases hmeans with
  | ok hmeans =>
    obtain ⟨hvalue, halike⟩ := hmeans
    cases hsolo with
    | ok hsolo =>
      obtain ⟨⟨rfl, -⟩, hmirror⟩ := hsolo
      refine hmirror.settled halike.heap halike.formats ?_
      exact congrArg Except.ok hvalue
  | error halike =>
    cases hsolo with
    | error hmirror =>
      refine hmirror.settled halike.heap halike.formats ?_
      rfl

/-- What the run alone ends with refers to what there is by then. -/
theorem solo_contained (d : Locale.Data) {root : Node} (frameSize : Nat)
    (hs : Separate w root args) (i : ι) :
    Contained (hs.lane i w.counts le_rfl) (root.solo d frameSize w (args i)) := by
  have hsolo := hs.solo_mirrored i le_rfl d frameSize fun _ _ => rfl
  generalize root.solo d frameSize w (args i) = s at hsolo
  generalize root.meaning d
    ⟨w.heap.canon, .ofArgs frameSize (args i), .empty, 0, [], w.formats⟩ = t at hsolo
  cases hsolo with
  | ok hsolo =>
    obtain ⟨⟨-, hknows⟩, hmirror⟩ := hsolo
    refine ⟨hmirror.start, ?_, fun id hid v hv => (hmirror.held id hid v hv).covers hmirror.start⟩
    rintro v ⟨⟩
    exact hknows.covers hmirror.start
  | error hmirror =>
    exact ⟨hmirror.start, nofun, fun id hid v hv => (hmirror.held id hid v hv).covers hmirror.start⟩

/-- What an activation had is reached by no other one. -/
theorem not_reaches_shift {root : Node} (hs : Separate w root args) {i j : ι} (hij : i ≠ j)
    {place : Counts} (hplace : w.counts ≤ place) {n id : Nat}
    (hid : (hs.lane i place hplace).Has n id) :
    ¬ w.heap.Reaches (args j) ((hs.lane i place hplace).shift.object id) := by
  intro hreach
  have hlt := hs.closed.lt_of_reaches (hs.covered j) hreach
  exact Lane.shift_ne hid (Nat.lt_of_lt_of_le hlt hplace.1) (hs.disjoint j i hij.symm _ hreach) rfl

end Separate

end AdaptiveTree
