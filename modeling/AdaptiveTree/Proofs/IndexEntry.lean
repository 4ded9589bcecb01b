import AdaptiveTree.Proofs.CachedIndex
import AdaptiveTree.Proofs.Exec.InStep

/-!
# Entries of a compound write for integer indices

A compound write can be entered with a given target and index, and has separate entries for integer
indices. These keep the index as it is, while the others keep it in the form of its key. The two
forms are the same unless the index is negative: its key is a name, so one entry leaves a number in
the slot and the other one a text (`intIndex_entries_differ`). Both stand for the same index.

So the entries end alike for an index that is not negative or is not kept, and for any index if the
value uses what is kept for indices only (`intIndex_entries_agree`).
-/

set_option autoImplicit false

namespace AdaptiveTree

open Exec

/-! ## Ending alike -/

/-- The frames have the same slots, but those in `kept` may hold their values in different forms
that address the same key. -/
structure Frame.SameUpTo (kept : List Nat) (f g : Frame) : Prop where
  size : f.size = g.size
  slot : ∀ s, s ∉ kept → f.get s = g.get s
  key : ∀ (h : Heap) (s : Nat), h.key (f.get s) = h.key (g.get s)

theorem Frame.ext_get {f g : Frame} (hsize : f.size = g.size) (hget : ∀ s, f.get s = g.get s) :
    f = g := by
  obtain ⟨xs⟩ := f
  obtain ⟨ys⟩ := g
  refine congrArg Frame.mk (Array.ext hsize fun i hi hi' => ?_)
  simpa [Frame.get, hi, hi'] using hget i

theorem Frame.SameUpTo.eq {f g : Frame} (h : Frame.SameUpTo [] f g) : f = g :=
  Frame.ext_get h.size fun s => h.slot s List.not_mem_nil

/-- Two runs ended with the same result or the same fault, with the same objects, and with frames
related by `R`. -/
structure EndAlike {α : Type} (R : Frame → Frame → Prop) (r s : Except Fault α × Machine) :
    Prop where
  result : r.1 = s.1
  heap : r.2.heap = s.2.heap
  frame : R r.2.frame s.2.frame

/-- From the machine, the two evaluations end alike on each channel. -/
structure Runner.EndAlike (R : Frame → Frame → Prop) (x y : Runner) (m : Machine) : Prop where
  generic : AdaptiveTree.EndAlike R (x.generic m) (y.generic m)
  int : AdaptiveTree.EndAlike R (x.int m) (y.int m)
  double : AdaptiveTree.EndAlike R (x.double m) (y.double m)

theorem EndAlike.mono {α : Type} {R R' : Frame → Frame → Prop} {r s : Except Fault α × Machine}
    (h : EndAlike R r s) (hR : ∀ f g, R f g → R' f g) : EndAlike R' r s :=
  ⟨h.result, h.heap, hR _ _ h.frame⟩

theorem Runner.EndAlike.mono {R R' : Frame → Frame → Prop} {x y : Runner} {m : Machine}
    (h : Runner.EndAlike R x y m) (hR : ∀ f g, R f g → R' f g) : Runner.EndAlike R' x y m :=
  ⟨h.generic.mono hR, h.int.mono hR, h.double.mono hR⟩

/-- The scope of runs from `m` that may write the slots `assigned`, with all objects in reach. -/
def Scope.everything (kept assigned : List Nat) (m : Machine) : Scope :=
  ⟨kept, assigned, fun _ => False, m⟩

section

variable {c : Scope} {I : Finset Cell} {m n : Machine}

theorem Twins.sameUpTo {kept : List Nat} (h : Twins kept I m n) :
    Frame.SameUpTo kept m.frame n.frame where
  size := h.size
  slot := h.slot
  key _ s := Heap.key_congr rfl (h.form s)

theorem InStep.everything (kept assigned : List Nat) (m : Machine) :
    InStep (.everything kept assigned m) I m m where
  twins := .refl I m
  inside :=
    { size := Nat.le_refl _
      slot := fun _ _ => rfl
      known := fun _ _ _ => id
      held := fun _ _ _ _ _ _ => id
      bound := fun _ => False.elim
      untouched := fun _ => False.elim }

/-- Computations in step with the same results end alike. -/
theorem Lockstep.endAlike {α : Type} {V : α → α → Prop} {x y : Exec α} (h : Lockstep c I V x y)
    (hV : ∀ a b, V a b → a = b) (hm : InStep c I m m) :
    EndAlike (Frame.SameUpTo c.kept) (x m) (y m) := by
  have hend := h.related hm
  generalize x m = r at hend
  generalize y m = s at hend
  cases hend with
  | ok hend => exact ⟨congrArg Except.ok (hV _ _ hend.1), hend.2.twins.heap, hend.2.twins.sameUpTo⟩
  | error hend => exact ⟨rfl, hend.twins.heap, hend.twins.sameUpTo⟩

end

/-! ## The two kinds of entries -/

/-- The value of the key of an integer: the integer itself, or its text if it is negative. -/
theorem Key.toValue_ofInt_eq (i : Int32) : (ofInt i).toValue =
    if i.toInt < 0 then .string ("-" ++ Nat.repr i.toInt.natAbs) else .int i := by
  split
  · next hneg =>
    have hname : ofInt i = .name (Number.intText i.toInt) := if_neg (by omega)
    have htext : Number.intText i.toInt = "-" ++ Nat.repr i.toInt.natAbs := if_pos hneg
    rw [hname, htext]
    rfl
  · next hpos => exact toValue_ofInt (by omega)

/-- What a compound write is made of whose sites are numbered from `base` on. -/
def Node.writeParts (env : Env) (flags : StoreFlags) (target index value : Node) (base : Nat) :
    Write.Parts where
  flags := flags
  site := base
  index := index.runner env (base + 1 + target.sites)
  value := value.runner env (base + 1 + target.sites + index.sites)

/-- A compound node is evaluated by its write, and entered through it where it is the root. -/
theorem Node.writeParts_compound (env : Env) (about : Meta) (flags : StoreFlags)
    (cache : Option Nat) (t i v : Node) (base : Nat) :
    (compound about flags cache t i v).runner env base =
      Write.compoundRunner env (writeParts env flags t i v base) cache (t.runner env (base + 1)) ∧
    (compound about flags cache t i v).rootParts? env = some (writeParts env flags t i v 0) := by
  constructor
  · simp only [runner, writeParts]
  · simp only [rootParts?, writeParts, Nat.zero_add]

namespace Write

/-- The entries of a compound write for a given target and an arbitrary index. -/
def entry (w : Parts) (cache : Option Nat) (target index : Value) : Runner :=
  entryRunner w target (prepare w cache target index)

/-- The entries of a compound write for a given target and an integer index. -/
def intEntry (w : Parts) (cache : Option Nat) (target : Value) (index : Int32) : Runner :=
  entryRunner w target (prepareInt w cache target index)

section

variable {w : Parts} {target : Value}

/-- An arbitrary index is kept as the value of its key. -/
theorem prepare_kept (ht : target.isNullish = false) (slot : Nat) (index : Value) (m : Machine) :
    (prepare w (some slot) target index m).2.frame.get slot = (m.heap.key index).toValue := by
  obtain ⟨n, hcheck, -, hheap⟩ := runCheck_ok w ht m
  have hrun : prepare w (some slot) target index m = convertIndex w (some slot) index n :=
    Exec.bind_ok hcheck
  have hkept : (convertIndex w (some slot) index n).2.frame =
      n.frame.set slot (n.heap.key index).toValue := rfl
  rw [hrun, hkept, Frame.get_set, if_pos rfl, hheap]

/-- An integer index is kept as it is. -/
theorem prepareInt_kept (ht : target.isNullish = false) (slot : Nat) (i : Int32) (m : Machine) :
    (prepareInt w (some slot) target i m).2.frame.get slot = .int i := by
  obtain ⟨n, hcheck, -, -⟩ := runCheck_ok w ht m
  have hrun : prepareInt w (some slot) target i m = convertInt (some slot) i n :=
    Exec.bind_ok hcheck
  have hkept : (convertInt (some slot) i n).2.frame = n.frame.set slot (.int i) := rfl
  rw [hrun, hkept, Frame.get_set, if_pos rfl]

end

section

variable {c : Scope} {cache : Option Nat} {i : Int32}

/-- An integer index may be kept in either form in a slot for which this makes no difference. -/
theorem keepable_int (hslot : ∀ s, cache = some s → s ∈ c.assigned)
    (hform : 0 ≤ i.toInt ∨ ∀ s, cache = some s → s ∈ c.kept) :
    Lockstep.Keepable c cache (.generic (.int i)) (.int i) := by
  refine fun s hs => ⟨hslot s hs, fun hkept h => ?_⟩
  rcases hform with hi | hcache
  · exact Key.toValue_ofInt hi
  · exact absurd (hcache s hs) hkept

theorem prepare_inStep (hcache : Lockstep.Keepable c cache (.generic (.int i)) (.int i))
    (w : Parts) (target : Value) :
    Lockstep c ∅ Eq (prepare w cache target (.int i)) (prepareInt w cache target i) :=
  (Lockstep.runCheck w target).skip fun _ _ _ => Lockstep.convert hcache rfl w

/-- The entries end alike if the value can be taken in step with itself. -/
theorem entry_endAlike {flags : StoreFlags} {site : Nat} {index value : Runner} {target : Value}
    {m : Machine} {I : Finset Cell}
    (hcache : Lockstep.Keepable c cache (.generic (.int i)) (.int i)) (hu : c.Inside target)
    (hv : value.InStep c I false) (hI : Apart site I) (hm : InStep c (I ∪ {.value site}) m m) :
    Runner.EndAlike (Frame.SameUpTo c.kept)
      (entry ⟨flags, site, index, value⟩ cache target (.int i))
      (intEntry ⟨flags, site, index, value⟩ cache target i) m := by
  have hprepare := prepare_inStep hcache ⟨flags, site, index, value⟩ target
  have hstore : ∀ {α : Type} {result : α → Value} {store : Key → Exec α},
      (∀ k, Lockstep c (I ∪ {.value site}) (AgreeAs c false result) (store k) (store k)) →
      EndAlike (Frame.SameUpTo c.kept)
        ((prepare ⟨flags, site, index, value⟩ cache target (.int i) >>= store) m)
        ((prepareInt ⟨flags, site, index, value⟩ cache target i >>= store) m) := by
    intro α result store hstore
    have hrun : Lockstep c (I ∪ {.value site}) (AgreeAs c false result)
        (prepare ⟨flags, site, index, value⟩ cache target (.int i) >>= store)
        (prepareInt ⟨flags, site, index, value⟩ cache target i >>= store) := by
      refine hprepare.skip ?_
      rintro k _ rfl
      exact hstore k
    exact hrun.endAlike (fun _ _ h => h.1) hm
  exact ⟨hstore (Runner.InStep.storeGeneric hv hI hu), hstore (Runner.InStep.storeInt hv hI hu),
    hstore (Runner.InStep.storeDouble hv hI hu)⟩

end

/-- A compound write that is entered with an integer index, as an arbitrary one or as an integer.
If the index is not negative or is not kept, both ways end alike on each channel. In any case they
do so if the value uses the slot, and possibly others, for indices only; then these slots may hold
their indices in different forms. Before the value is evaluated, nothing but the form of the index
in the slot is different: entered as an integer, it is kept as it is, and entered as an arbitrary
one, as the value of its key, which is a text if the index is negative. -/
theorem intIndex_entries_agree (env : Env) (flags : StoreFlags) (cache : Option Nat)
    (t ix v : Node) (base : Nat) (target : Value) (i : Int32) (m : Machine) :
    (0 ≤ i.toInt ∨ cache = none →
      Runner.EndAlike Eq (entry (Node.writeParts env flags t ix v base) cache target (.int i))
        (intEntry (Node.writeParts env flags t ix v base) cache target i) m) ∧
    (∀ kept : List Nat, cache.toList ⊆ kept → v.indexOnly kept false = true →
      Runner.EndAlike (Frame.SameUpTo kept)
        (entry (Node.writeParts env flags t ix v base) cache target (.int i))
        (intEntry (Node.writeParts env flags t ix v base) cache target i) m) ∧
    EndAlike (Frame.SameUpTo cache.toList)
      (prepare (Node.writeParts env flags t ix v base) cache target (.int i) m)
      (prepareInt (Node.writeParts env flags t ix v base) cache target i m) ∧
    ∀ slot ∈ cache, target.isNullish = false →
      (prepareInt (Node.writeParts env flags t ix v base) cache target i m).2.frame.get slot =
        .int i ∧
      (prepare (Node.writeParts env flags t ix v base) cache target (.int i) m).2.frame.get slot =
        if i.toInt < 0 then .string ("-" ++ Nat.repr i.toInt.natAbs) else .int i := by
  have hslot : ∀ (kept : List Nat) (s : Nat), cache = some s →
      s ∈ (Scope.everything kept (cache.toList ++ v.assigned) m).assigned := fun _ s hs =>
    List.mem_append_left _ (Option.mem_toList.2 hs)
  have hrun : ∀ kept : List Nat, v.indexOnly kept false = true →
      (0 ≤ i.toInt ∨ ∀ s, cache = some s → s ∈ kept) →
      Runner.EndAlike (Frame.SameUpTo kept)
        (entry (Node.writeParts env flags t ix v base) cache target (.int i))
        (intEntry (Node.writeParts env flags t ix v base) cache target i) m := by
    intro kept honly hform
    have hv := Node.runner_inStep (c := .everything kept (cache.toList ++ v.assigned) m) env v
      (base + 1 + t.sites + ix.sites) honly (List.subset_append_right _ _) fun _ _ _ _ => id
    exact entry_endAlike (keepable_int (hslot kept) hform) (fun _ _ => id) hv
      (Node.apart_cells (by omega)) (.everything kept _ m)
  refine ⟨fun h => ?_, fun kept hkept honly => ?_, ?_, ?_⟩
  · refine (hrun [] (Node.indexOnly_nil false v) (h.imp_right ?_)).mono fun _ _ hfg => hfg.eq
    rintro rfl s ⟨⟩
  · exact hrun kept honly (.inr fun s hs => hkept (Option.mem_toList.2 hs))
  · have hcache := keepable_int (i := i) (hslot cache.toList)
      (.inr fun s hs => Option.mem_toList.2 hs)
    exact (prepare_inStep hcache _ target).endAlike (fun _ _ h => h)
      (.everything cache.toList _ m)
  · rintro slot rfl ht
    refine ⟨prepareInt_kept ht slot i m, ?_⟩
    rw [prepare_kept ht, ← Key.toValue_ofInt_eq]
    rfl

/-! ### An index that is kept as a text or as a number -/

/-- A write to the object in slot 1 that keeps its index in slot 0, with the given value. -/
def keepingWrite (v : Node) : Parts :=
  Node.writeParts ⟨true, false, ⟨"en", []⟩⟩ {} (.read {} 1) (.const {} .undefined) v 0

/-- An array in slot 1. -/
def keepingStart : Machine :=
  ⟨⟨#[.array []]⟩, .ofArgs 2 [.undefined, .object 0], ⟨#[]⟩, 0, [], 0⟩

/-- With what is kept as the value, the entries agree on an index that is not negative. On a
negative one they agree up to the form of the index, if the value is the element at the index; one
keeps it as a number and the other one as a text. -/
theorem intIndex_entries_agree_kept :
    Runner.EndAlike Eq (entry (keepingWrite (.read {} 0)) (some 0) (.object 0) (.int 3))
      (intEntry (keepingWrite (.read {} 0)) (some 0) (.object 0) 3) keepingStart ∧
    Runner.EndAlike (Frame.SameUpTo [0])
      (entry (keepingWrite (.readElement {} (.read {} 1) (.read {} 0))) (some 0) (.object 0)
        (.int (-1)))
      (intEntry (keepingWrite (.readElement {} (.read {} 1) (.read {} 0))) (some 0) (.object 0)
        (-1))
      keepingStart ∧
    (prepareInt (keepingWrite (.read {} 0)) (some 0) (.object 0) (-1) keepingStart).2.frame.get 0 =
      .int (-1) ∧
    (prepare (keepingWrite (.read {} 0)) (some 0) (.object 0) (.int (-1)) keepingStart).2.frame.get
      0 = .string "-1" :=
  ⟨(intIndex_entries_agree _ _ _ _ _ _ _ _ 3 _).1 (.inl (by decide)),
    (intIndex_entries_agree _ _ _ _ _ _ _ _ (-1) _).2.1 [0] (List.Subset.refl _) (by decide),
    (intIndex_entries_agree _ _ _ _ _ _ _ _ (-1) _).2.2.2 0 rfl rfl⟩

/-- A write of the index that it keeps stores a text if it is entered with minus one as an arbitrary
index, and a number if it is entered with minus one as an integer. -/
theorem intIndex_entries_differ :
    ((entry (keepingWrite (.read {} 0)) (some 0) (.object 0) (.int (-1))).generic keepingStart).1 =
      .ok (.string "-1") ∧
    ((intEntry (keepingWrite (.read {} 0)) (some 0) (.object 0) (-1)).generic keepingStart).1 =
      .ok (.int (-1)) ∧
    ¬ Runner.EndAlike Eq (entry (keepingWrite (.read {} 0)) (some 0) (.object 0) (.int (-1)))
      (intEntry (keepingWrite (.read {} 0)) (some 0) (.object 0) (-1)) keepingStart := by
  have htext : ((entry (keepingWrite (.read {} 0)) (some 0) (.object 0) (.int (-1))).generic
      keepingStart).1 = .ok (.string "-1") := rfl
  have hnumber : ((intEntry (keepingWrite (.read {} 0)) (some 0) (.object 0) (-1)).generic
      keepingStart).1 = .ok (.int (-1)) := rfl
  refine ⟨htext, hnumber, fun h => ?_⟩
  have hsame := h.generic.result
  rw [htext, hnumber] at hsame
  cases hsame

end Write

end AdaptiveTree
