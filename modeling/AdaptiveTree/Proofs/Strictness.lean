import AdaptiveTree.Proofs.Exec.Congruence

/-!
# Strictness only adds type faults

A store that an object refuses, or that has a primitive target, is ignored or fails as the flags of
the write say. `n.tighten extra base` is `n` with more flags on its element writes. Its run is the
run of `n`, up to the first store that only the new flags make fail; that fault is a type fault, and
it ends the run (`tighten_run`).

The flags are read in two places, `Object.put` and `Element.store`. All else follows from the fact
that `Tightens`, the relation between computations that says this, is a congruence.
-/

set_option autoImplicit false

namespace AdaptiveTree

open Exec

/-! ## More flags -/

/-- All flags of two stores. -/
def StoreFlags.join (f g : StoreFlags) : StoreFlags :=
  ⟨f.strict || g.strict, f.own || g.own⟩

theorem StoreFlags.fails_of_join {f g : StoreFlags} (h : (f.join g).fails = false) :
    f.fails = false := by
  simp only [fails, join, Bool.or_eq_false_iff] at h ⊢
  exact ⟨h.1.1, h.2.1⟩

namespace Node

mutual

/-- The tree with more flags on its element writes: the write with the number `i` also gets the
flags `extra i`. The sites of the tree are numbered from `base` on. -/
def tighten (extra : Nat → StoreFlags) : Node → Nat → Node
  | .const m v, _ => .const m v
  | .read m s, _ => .read m s
  | .patternLiteral m p, _ => .patternLiteral m p
  | .write m s v, base => .write m s (v.tighten extra base)
  | .binary m op l r, base =>
    .binary m op (l.tighten extra (base + 1)) (r.tighten extra (base + 1 + l.sites))
  | .readElement m t i, base =>
    .readElement m (t.tighten extra base) (i.tighten extra (base + t.sites))
  | .writeElement m f t i v, base =>
    .writeElement m (f.join (extra base)) (t.tighten extra (base + 1))
      (i.tighten extra (base + 1 + t.sites)) (v.tighten extra (base + 1 + t.sites + i.sites))
  | .compound m f c t i v, base =>
    .compound m (f.join (extra base)) c (t.tighten extra (base + 1))
      (i.tighten extra (base + 1 + t.sites)) (v.tighten extra (base + 1 + t.sites + i.sites))
  | .tagged m c, base => .tagged m (c.tighten extra base)
  | .sequence m ns, base => .sequence m (tightenAll extra ns base)
  | .patternExec m p s a, base =>
    .patternExec m (p.tighten extra base) (s.tighten extra (base + p.sites))
      (a.tighten extra (base + p.sites + s.sites))
  | .listFormat m l o, base =>
    .listFormat m (l.tighten extra base) (o.tighten extra (base + l.sites))

/-- Several trees with more flags on their element writes. -/
def tightenAll (extra : Nat → StoreFlags) : List Node → Nat → List Node
  | [], _ => []
  | n :: ns, base => n.tighten extra base :: tightenAll extra ns (base + n.sites)

end

mutual

@[simp] theorem sites_tighten (extra : Nat → StoreFlags) : ∀ (n : Node) (base : Nat),
    (n.tighten extra base).sites = n.sites
  | .const .., _ | .read .., _ | .patternLiteral .., _ => by simp only [tighten, sites]
  | .write _ _ v, base => by simp only [tighten, sites, sites_tighten extra v]
  | .binary _ _ l r, base => by
    simp only [tighten, sites, sites_tighten extra l, sites_tighten extra r]
  | .readElement _ t i, base => by
    simp only [tighten, sites, sites_tighten extra t, sites_tighten extra i]
  | .writeElement _ _ t i v, base => by
    simp only [tighten, sites, sites_tighten extra t, sites_tighten extra i, sites_tighten extra v]
  | .compound _ _ _ t i v, base => by
    simp only [tighten, sites, sites_tighten extra t, sites_tighten extra i, sites_tighten extra v]
  | .tagged _ c, base => by simp only [tighten, sites, sites_tighten extra c]
  | .sequence _ ns, base => by simp only [tighten, sites, sitesAll_tighten extra ns]
  | .patternExec _ p s a, base => by
    simp only [tighten, sites, sites_tighten extra p, sites_tighten extra s, sites_tighten extra a]
  | .listFormat _ l o, base => by
    simp only [tighten, sites, sites_tighten extra l, sites_tighten extra o]

theorem sitesAll_tighten (extra : Nat → StoreFlags) : ∀ (ns : List Node) (base : Nat),
    sitesAll (tightenAll extra ns base) = sitesAll ns
  | [], _ => rfl
  | n :: ns, base => by
    simp only [tightenAll, sitesAll, sites_tighten extra n, sitesAll_tighten extra ns]

end

end Node

/-! ## Outcomes of stricter runs -/

/-- The first outcome is the second one, or a type fault. -/
inductive Tightened {α : Type} : Except Fault α × Machine → Except Fault α × Machine → Prop
  | same (r : Except Fault α × Machine) : Tightened r r
  | refused {e : Fault} {m : Machine} {r : Except Fault α × Machine} (h : e.category = .type) :
    Tightened (.error e, m) r

/-- From every machine the first computation does what the second does, or ends in a type fault. -/
def Tightens (α : Type) (x y : Exec α) : Prop :=
  ∀ m : Machine, Tightened (x m) (y m)

theorem congruent_tightens : Congruent Tightens where
  blind _ m := .same _
  bind := by
    intro α β x y f g hx hf m
    rw [bind_apply, bind_apply]
    have h := hx m
    generalize x m = r at h
    generalize y m = s at h
    cases h with
    | same =>
      obtain ⟨e | a, n⟩ := r
      · exact .same _
      · exact hf a n
    | refused he => exact .refused he

theorem tightens_reporting {α : Type} {x y : Exec α} (h : Tightens α x y) (about : Meta)
    (value : α → Value) : Tightens α (reporting about value x) (reporting about value y) := by
  intro m
  have hxy := h { m with trace := m.trace ++ [.enter about] }
  simp only [reporting]
  generalize x { m with trace := m.trace ++ [.enter about] } = r at hxy
  generalize y { m with trace := m.trace ++ [.enter about] } = s at hxy
  cases hxy with
  | same => exact .same _
  | refused he => exact .refused he

theorem linked_tagged {x y : Runner} (h : Linked Tightens x y) (env : Env) (about : Meta) :
    Linked Tightens (.tagged env about x) (.tagged env about y) := by
  unfold Runner.tagged
  split
  · exact ⟨tightens_reporting h.generic _ _, tightens_reporting h.int _ _,
      tightens_reporting h.double _ _⟩
  · exact h

/-! ## Stores with more flags -/

/-- A store that is not carried out: with more flags it is treated as before, or fails with a type
fault. -/
theorem StoreFlags.refuse_join {α : Type} (f g : StoreFlags) (a : α) {e e' : Fault}
    (he : e.category = .type) :
    (if (f.join g).fails then .error e else .ok a : Except Fault α) =
        (if f.fails then .error e' else .ok a) ∨
      ∃ e'', (if (f.join g).fails then .error e else .ok a : Except Fault α) = .error e'' ∧
        e''.category = .type := by
  cases hfails : (f.join g).fails with
  | true => exact .inr ⟨e, rfl, he⟩
  | false =>
    rw [fails_of_join hfails]
    exact .inl rfl

theorem Object.put_join (o : Object) (k : Key) (v : Value) (f g : StoreFlags) :
    o.put k v (f.join g) = o.put k v f ∨
      ∃ e, o.put k v (f.join g) = .error e ∧ e.category = .type := by
  simp only [put_eq]
  generalize (if o.isLengthKey k then arrayLength? v else none) = newLength
  split
  · exact .inl rfl
  · split
    · exact f.refuse_join g o rfl
    · exact .inl rfl

theorem Element.store_join (f g : StoreFlags) (h : Heap) (t : Value) (k : Key) (v : Value) :
    store (f.join g) h t k v = store f h t k v ∨
      ∃ e, store (f.join g) h t k v = .error e ∧ e.category = .type := by
  cases t with
  | object id =>
    simp only [store]
    obtain heq | ⟨e, he, htype⟩ := (h.get id).put_join k v f g
    · exact .inl (by rw [heq])
    · exact .inr ⟨e, by rw [he]; rfl, htype⟩
  | undefined => exact .inl rfl
  | null => exact .inl rfl
  | _ => exact f.refuse_join g h rfl

theorem tightens_runStore (f g : StoreFlags) (t : Value) (k : Key) (v : Value) :
    Tightens Value (Element.runStore (f.join g) t k v) (Element.runStore f t k v) := by
  intro m
  unfold Element.runStore
  obtain heq | ⟨e, he, htype⟩ := Element.store_join f g m.heap t k v
  · rw [heq]
    exact .same _
  · rw [he]
    exact .refused htype

/-! ## Trees -/

namespace Node

mutual

theorem runner_tighten (extra : Nat → StoreFlags) (env : Env) : ∀ (n : Node) (base : Nat),
    Linked Tightens ((n.tighten extra base).runner env base) (n.runner env base)
  | .const .., _ | .read .., _ | .patternLiteral .., _ => by
    simp only [tighten, runner]
    exact congruent_tightens.ofGeneric fun _ => .same _
  | .write _ slot v, base => by
    simp only [tighten, runner]
    exact congruent_tightens.write (runner_tighten extra env v _) slot
  | .binary _ op l r, base => by
    simp only [tighten, runner, sites_tighten]
    exact congruent_tightens.binary (runner_tighten extra env l _) (runner_tighten extra env r _) op
      base env
  | .readElement _ t i, base => by
    simp only [tighten, runner, sites_tighten]
    exact congruent_tightens.readElement (runner_tighten extra env t _)
      (runner_tighten extra env i _)
  | .writeElement _ f t i v, base => by
    simp only [tighten, runner, sites_tighten]
    exact congruent_tightens.writeElement (tightens_runStore f (extra base))
      (runner_tighten extra env t _) (runner_tighten extra env i _) (runner_tighten extra env v _)
  | .compound _ f cache t i v, base => by
    simp only [tighten, runner, sites_tighten]
    exact congruent_tightens.compound cache (tightens_runStore f (extra base))
      (runner_tighten extra env t _) (runner_tighten extra env i _) (runner_tighten extra env v _)
  | .tagged about c, base => by
    simp only [tighten, runner]
    exact linked_tagged (runner_tighten extra env c base) env about
  | .sequence _ ns, base => by
    simp only [tighten, runner]
    exact congruent_tightens.sequence (runnerAll_tighten extra env ns base)
  | .patternExec _ p s a, base => by
    simp only [tighten, runner, sites_tighten]
    exact congruent_tightens.patternExec (runner_tighten extra env p _)
      (runner_tighten extra env s _) (runner_tighten extra env a _)
  | .listFormat _ l o, base => by
    simp only [tighten, runner, sites_tighten]
    exact congruent_tightens.listFormat env (runner_tighten extra env l _)
      (runner_tighten extra env o _)

theorem runnerAll_tighten (extra : Nat → StoreFlags) (env : Env) : ∀ (ns : List Node) (base : Nat),
    List.Forall₂ (Linked Tightens) (runnerAll env (tightenAll extra ns base) base)
      (runnerAll env ns base)
  | [], _ => by
    simp only [tightenAll, runnerAll]
    exact .nil
  | n :: ns, base => by
    simp only [tightenAll, runnerAll, sites_tighten]
    exact .cons (runner_tighten extra env n base) (runnerAll_tighten extra env ns _)

end

end Node

/-- If the stricter computation gives a result, the other one gives the same and leaves the same
machine. If it fails, the other one fails alike, or the fault is a type fault. -/
structure OnlyAddsTypeFaults {α : Type} (strict plain : Exec α) (m : Machine) : Prop where
  ok : ∀ (a : α) (n : Machine), strict m = (.ok a, n) → plain m = (.ok a, n)
  error : ∀ (e : Fault) (n : Machine), strict m = (.error e, n) →
    plain m = (.error e, n) ∨ e.category = .type

theorem Tightens.onlyAddsTypeFaults {α : Type} {x y : Exec α} (h : Tightens α x y) (m : Machine) :
    OnlyAddsTypeFaults x y m := by
  have hm := h m
  generalize hx : x m = r at hm
  generalize hy : y m = s at hm
  cases hm with
  | same =>
    exact ⟨fun a n hr => by rw [hy, ← hr, hx], fun e n hr => .inl (by rw [hy, ← hr, hx])⟩
  | @refused e' _ _ he =>
    refine ⟨fun a n hr => ?_, fun e n hr => .inr ?_⟩
    · rw [hx] at hr
      cases hr
    · rw [hx] at hr
      cases hr
      exact he

/-- Strictness only turns ignored stores into faults: on each channel a tree with more flags on any
of its element writes gives what the tree gives, or fails as the tree does, or with a type fault. -/
theorem Node.tighten_run (t : Node) (extra : Nat → StoreFlags) (env : Env) (base : Nat)
    (m : Machine) :
    let strict := (t.tighten extra base).runner env base
    let plain := t.runner env base
    OnlyAddsTypeFaults strict.generic plain.generic m ∧
      OnlyAddsTypeFaults strict.int plain.int m ∧
      OnlyAddsTypeFaults strict.double plain.double m := by
  have h := t.runner_tighten extra env base
  exact ⟨h.generic.onlyAddsTypeFaults m, h.int.onlyAddsTypeFaults m,
    h.double.onlyAddsTypeFaults m⟩

/-- A store to a text is ignored without flags, and fails when it is strict. -/
example :
    let t : Node := .writeElement {} {} (.const {} (.string "a")) (.const {} (.int 0))
      (.const {} (.int 1))
    let result := fun n : Node =>
      ((n.runner ⟨true, false, ⟨"en", []⟩⟩ 0).generic ⟨.empty, .ofSize 0, .empty, 0, [], 0⟩).1
    result t = .ok (.int 1) ∧ result (t.tighten (fun _ => { strict := true }) 0) =
      .error (.primitiveTarget (.index 0) "string" "a") :=
  ⟨rfl, rfl⟩

end AdaptiveTree
