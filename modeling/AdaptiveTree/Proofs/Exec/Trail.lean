import AdaptiveTree.Exec.Run
import AdaptiveTree.Proofs.Key
import Mathlib.Data.Finset.Card

/-!
# The steps of a run

Everything that evaluation does to the machine is one of nine kinds of steps (`Step`): it writes a
local slot, stores to an object, allocates an object or a list format, reports an event, or updates
one *cell* of a site, that is one of its two kinds or of its two parts. The run of a tree on any
channel, whether it gives a result or fails, is a `Trail` of such steps. The trail updates each cell
at most once, and only cells of the tree (`Node.runner_within`).

What holds of every step thus holds of every run, by induction on the trail.
-/

set_option autoImplicit false

namespace AdaptiveTree

/-! ## Cells -/

/-- What a step can update of a site: one of the observed kinds, or one of the parts that are made
when they are first needed. -/
inductive Cell where
  | value (site : Nat)
  | index (site : Nat)
  | targetCheck (site : Nat)
  | conversion (site : Nat)
deriving DecidableEq, Repr

/-- The site of a cell. -/
def Cell.site : Cell → Nat
  | .value i | .index i | .targetCheck i | .conversion i => i

/-- No cell of the set is at the site. -/
def Apart (site : Nat) (S : Finset Cell) : Prop :=
  ∀ c ∈ S, c.site ≠ site

theorem Apart.disjoint_singleton {S : Finset Cell} {c : Cell} (h : Apart c.site S) :
    Disjoint S {c} :=
  Finset.disjoint_singleton_right.2 fun hc => h c hc rfl

namespace Node

mutual

/-- The cells of the sites of a tree, which are numbered from `base` on: an arithmetic node observes
its results, an element write its values and indices, and a compound write has two parts more. -/
def cells : Node → Nat → Finset Cell
  | .const .., _ | .read .., _ | .patternLiteral .., _ => ∅
  | .write _ _ v, base => v.cells base
  | .binary _ _ l r, base => {.value base} ∪ (l.cells (base + 1) ∪ r.cells (base + 1 + l.sites))
  | .readElement _ t i, base => t.cells base ∪ i.cells (base + t.sites)
  | .writeElement _ _ t i v, base =>
    {.value base, .index base} ∪ (t.cells (base + 1) ∪
      (i.cells (base + 1 + t.sites) ∪ v.cells (base + 1 + t.sites + i.sites)))
  | .compound _ _ _ t i v, base =>
    {.value base, .index base, .targetCheck base, .conversion base} ∪ (t.cells (base + 1) ∪
      (i.cells (base + 1 + t.sites) ∪ v.cells (base + 1 + t.sites + i.sites)))
  | .tagged _ c, base => c.cells base
  | .sequence _ ns, base => cellsAll ns base
  | .patternExec _ p s a, base =>
    p.cells base ∪ (s.cells (base + p.sites) ∪ a.cells (base + p.sites + s.sites))
  | .listFormat _ l o, base => l.cells base ∪ o.cells (base + l.sites)

/-- The cells of the sites of several trees. -/
def cellsAll : List Node → Nat → Finset Cell
  | [], _ => ∅
  | n :: ns, base => n.cells base ∪ cellsAll ns (base + n.sites)

end

mutual

theorem site_of_mem_cells {c : Cell} : ∀ (n : Node) (base : Nat), c ∈ n.cells base →
    base ≤ c.site ∧ c.site < base + n.sites
  | .const .., _ | .read .., _ | .patternLiteral .., _ => by simp [cells]
  | .write _ _ v, base => by
    simp only [cells, sites]
    exact site_of_mem_cells v base
  | .binary _ _ l r, base => by
    have hl := site_of_mem_cells (c := c) l (base + 1)
    have hr := site_of_mem_cells (c := c) r (base + 1 + l.sites)
    simp only [cells, sites]
    grind [Cell.site]
  | .readElement _ t i, base => by
    have ht := site_of_mem_cells (c := c) t base
    have hi := site_of_mem_cells (c := c) i (base + t.sites)
    simp only [cells, sites]
    grind
  | .writeElement _ _ t i v, base => by
    have ht := site_of_mem_cells (c := c) t (base + 1)
    have hi := site_of_mem_cells (c := c) i (base + 1 + t.sites)
    have hv := site_of_mem_cells (c := c) v (base + 1 + t.sites + i.sites)
    simp only [cells, sites]
    grind [Cell.site]
  | .compound _ _ _ t i v, base => by
    have ht := site_of_mem_cells (c := c) t (base + 1)
    have hi := site_of_mem_cells (c := c) i (base + 1 + t.sites)
    have hv := site_of_mem_cells (c := c) v (base + 1 + t.sites + i.sites)
    simp only [cells, sites]
    grind [Cell.site]
  | .tagged _ n, base => by
    simp only [cells, sites]
    exact site_of_mem_cells n base
  | .sequence _ ns, base => by
    simp only [cells, sites]
    exact site_of_mem_cellsAll ns base
  | .patternExec _ p s a, base => by
    have hp := site_of_mem_cells (c := c) p base
    have hs := site_of_mem_cells (c := c) s (base + p.sites)
    have ha := site_of_mem_cells (c := c) a (base + p.sites + s.sites)
    simp only [cells, sites]
    grind
  | .listFormat _ l o, base => by
    have hl := site_of_mem_cells (c := c) l base
    have ho := site_of_mem_cells (c := c) o (base + l.sites)
    simp only [cells, sites]
    grind

theorem site_of_mem_cellsAll {c : Cell} : ∀ (ns : List Node) (base : Nat), c ∈ cellsAll ns base →
    base ≤ c.site ∧ c.site < base + sitesAll ns
  | [], _ => by simp [cellsAll]
  | n :: ns, base => by
    have hn := site_of_mem_cells (c := c) n base
    have hns := site_of_mem_cellsAll (c := c) ns (base + n.sites)
    simp only [cellsAll, sitesAll]
    grind

end

theorem disjoint_cells {n n' : Node} {base base' : Nat} (h : base + n.sites ≤ base') :
    Disjoint (n.cells base) (n'.cells base') := by
  refine Finset.disjoint_left.2 fun c hc hc' => ?_
  have hn := site_of_mem_cells n base hc
  have hn' := site_of_mem_cells n' base' hc'
  omega

theorem disjoint_cellsAll {n : Node} {ns : List Node} {base base' : Nat}
    (h : base + n.sites ≤ base') : Disjoint (n.cells base) (cellsAll ns base') := by
  refine Finset.disjoint_left.2 fun c hc hc' => ?_
  have hn := site_of_mem_cells n base hc
  have hns := site_of_mem_cellsAll ns base' hc'
  omega

theorem apart_cells {n : Node} {site base : Nat} (h : site < base) : Apart site (n.cells base) := by
  intro c hc
  have hn := site_of_mem_cells n base hc
  omega

end Node

/-! ## Steps and trails -/

/-- One change that evaluation makes to the machine, with the cell that it updates, if any. -/
inductive Step : Option Cell → Machine → Machine → Prop
  | setLocal (m : Machine) (slot : Nat) (v : Value) :
    Step none m { m with frame := m.frame.set slot v }
  | store {m : Machine} {flags : StoreFlags} {t : Value} {k : Key} {v : Value} {h : Heap}
    (hk : k.Proper) (hs : Element.store flags m.heap t k v = .ok h) :
    Step none m { m with heap := h }
  | allocObject (m : Machine) (o : Object) : Step none m { m with heap := (m.heap.alloc o).2 }
  | allocFormat (m : Machine) : Step none m { m with formats := m.formats + 1 }
  | report (m : Machine) (e : Event) : Step none m { m with trace := m.trace ++ [e] }
  | widenValue (m : Machine) (i : Nat) (k : Kind) :
    Step (some (.value i)) m (Exec.widenValue i k m).2
  | widenIndex (m : Machine) (i : Nat) (k : Kind) :
    Step (some (.index i)) m (Exec.widenIndex i k m).2
  | publishTargetCheck (m : Machine) (i : Nat) :
    Step (some (.targetCheck i)) m (Exec.publishTargetCheck i m).2
  | publishConversion (m : Machine) (i : Nat) (v : Value) :
    Step (some (.conversion i)) m (Exec.publishConversion i v m).2

/-- Steps one after the other, with the cells that they update, in order. -/
inductive Trail : List Cell → Machine → Machine → Prop
  | refl (m : Machine) : Trail [] m m
  | step {c : Option Cell} {cs : List Cell} {m n p : Machine} :
    Step c m n → Trail cs n p → Trail (c.toList ++ cs) m p

theorem Trail.single {c : Option Cell} {m n : Machine} (h : Step c m n) : Trail c.toList m n := by
  have := Trail.step h (.refl n)
  rwa [List.append_nil] at this

theorem Trail.append {cs ds : List Cell} {m n p : Machine} (h : Trail cs m n)
    (h' : Trail ds n p) : Trail (cs ++ ds) m p := by
  induction h with
  | refl => exact h'
  | step hs _ ih =>
    rw [List.append_assoc]
    exact .step hs (ih h')

namespace Exec

variable {α β : Type}

/-- Whatever the outcome, the run is a trail that updates each cell at most once and only cells of
`S`; and a result has the property `Q`. -/
def Within (S : Finset Cell) (Q : α → Prop) (x : Exec α) : Prop :=
  ∀ m : Machine, (∃ cs, Trail cs m (x m).2 ∧ cs.Nodup ∧ ∀ c ∈ cs, c ∈ S) ∧
    ∀ a, (x m).1 = .ok a → Q a

namespace Within

variable {S T : Finset Cell} {P : α → Prop} {Q : β → Prop}

theorem subset {x : Exec α} (h : Within S P x) (hST : S ⊆ T) : Within T P x := by
  intro m
  obtain ⟨⟨cs, htrail, hnodup, hmem⟩, hres⟩ := h m
  exact ⟨⟨cs, htrail, hnodup, fun c hc => hST (hmem c hc)⟩, hres⟩

/-- A computation that leaves the machine as it is. -/
theorem still {x : Exec α} (hx : ∀ m, (x m).2 = m) (hP : ∀ m a, (x m).1 = .ok a → P a) :
    Within ∅ P x := by
  intro m
  rw [hx]
  exact ⟨⟨[], .refl m, .nil, by simp⟩, hP m⟩

theorem pure {a : α} (h : P a) : Within ∅ P (pure a) :=
  still (fun _ => rfl) fun _ _ ha => by
    cases ha
    exact h

/-- A computation that is one step. -/
theorem step {c : Option Cell} {x : Exec α} (hx : ∀ m, Step c m (x m).2) :
    Within c.toFinset (fun _ => True) x := by
  intro m
  refine ⟨⟨c.toList, .single (hx m), ?_, ?_⟩, fun _ _ => trivial⟩
  · cases c <;> simp
  · cases c <;> simp

theorem bind {x : Exec α} {f : α → Exec β} (hx : Within S P x)
    (hf : ∀ a, P a → Within T Q (f a)) (hd : Disjoint S T) : Within (S ∪ T) Q (x >>= f) := by
  intro m
  obtain ⟨⟨cs, htrail, hnodup, hmem⟩, hres⟩ := hx m
  rw [bind_apply]
  generalize x m = r at htrail hres
  obtain ⟨e | a, n⟩ := r
  · exact ⟨⟨cs, htrail, hnodup, fun c hc => Finset.mem_union_left T (hmem c hc)⟩, nofun⟩
  · obtain ⟨⟨ds, htrail', hnodup', hmem'⟩, hres'⟩ := hf a (hres a rfl) n
    refine ⟨⟨cs ++ ds, htrail.append htrail', ?_, fun c hc => ?_⟩, hres'⟩
    · refine hnodup.append hnodup' fun c hc hc' => ?_
      exact Finset.disjoint_left.1 hd (hmem c hc) (hmem' c hc')
    · rw [Finset.mem_union]
      exact (List.mem_append.1 hc).imp (hmem c) (hmem' c)

/-- A computation that updates no cell, before another one. -/
theorem skip {x : Exec α} {f : α → Exec β} (hx : Within ∅ P x)
    (hf : ∀ a, P a → Within T Q (f a)) : Within T Q (x >>= f) := by
  have h := hx.bind hf (Finset.disjoint_empty_left T)
  rwa [Finset.empty_union] at h

/-- A computation that updates no cell, after another one. -/
theorem andThen {x : Exec α} {f : α → Exec β} (hx : Within S P x)
    (hf : ∀ a, P a → Within ∅ Q (f a)) : Within S Q (x >>= f) := by
  have h := hx.bind hf (Finset.disjoint_empty_right S)
  rwa [Finset.union_empty] at h

/-- A result that is changed afterwards. -/
theorem map {x : Exec α} (hx : Within S P x) (f : α → β) :
    Within S (fun _ => True) (x >>= fun a => Pure.pure (f a)) :=
  hx.andThen fun _ _ => .pure trivial

end Within

theorem within_setLocal (slot : Nat) (v : Value) :
    Within ∅ (fun _ => True) (setLocal slot v) :=
  .step (c := none) fun m => .setLocal m slot v

theorem within_widenValue (i : Nat) (k : Kind) :
    Within {.value i} (fun _ => True) (widenValue i k) :=
  .step fun m => .widenValue m i k

theorem within_widenIndex (i : Nat) (k : Kind) :
    Within {.index i} (fun _ => True) (widenIndex i k) :=
  .step fun m => .widenIndex m i k

/-- A computation that leaves the machine as it is, whatever it gives. -/
theorem within_idle {x : Exec α} (hx : ∀ m, (x m).2 = m) : Within ∅ (fun _ => True) x :=
  .still hx fun _ _ _ => trivial

theorem within_key (v : Value) : Within ∅ Key.Proper (key v) :=
  .still (fun _ => rfl) fun m _ ha => by
    cases ha
    exact m.heap.key_proper v

theorem within_runStore (flags : StoreFlags) (t : Value) {k : Key} (hk : k.Proper) (v : Value) :
    Within ∅ (fun _ => True) (Element.runStore flags t k v) := by
  intro m
  unfold Element.runStore
  cases hs : Element.store flags m.heap t k v with
  | ok h => exact ⟨⟨[], .single (.store hk hs), .nil, nofun⟩, fun _ _ => trivial⟩
  | error e => exact ⟨⟨[], .refl m, .nil, nofun⟩, fun _ _ => trivial⟩

theorem within_reporting {S : Finset Cell} {x : Exec α} (h : Within S (fun _ => True) x)
    (about : Meta) (value : α → Value) :
    Within S (fun _ => True) (reporting about value x) := by
  intro m
  obtain ⟨⟨cs, htrail, hnodup, hmem⟩, -⟩ := h { m with trace := m.trace ++ [.enter about] }
  have henter := (Trail.single (.report m (.enter about))).append htrail
  rw [reporting_apply]
  generalize x { m with trace := m.trace ++ [.enter about] } = r at henter
  have hrun := henter.append (.single (.report r.2 (.closing about (r.1.map value))))
  rw [Option.toList_none, List.nil_append, List.append_nil] at hrun
  exact ⟨⟨cs, hrun, hnodup, hmem⟩, fun _ _ => trivial⟩

end Exec

/-! ## Nodes -/

/-- The run on each channel updates each cell at most once, and only cells of `S`. -/
structure Runner.Within (S : Finset Cell) (r : Runner) : Prop where
  generic : Exec.Within S (fun _ => True) r.generic
  int : Exec.Within S (fun _ => True) r.int
  double : Exec.Within S (fun _ => True) r.double

namespace Runner.Within

open Exec

variable {S T : Finset Cell} {x : Runner}

theorem subset (h : x.Within S) (hST : S ⊆ T) : x.Within T :=
  ⟨h.generic.subset hST, h.int.subset hST, h.double.subset hST⟩

theorem ofGeneric {x : Exec Value} (h : Exec.Within S (fun _ => True) x) :
    (Runner.ofGeneric x).Within S :=
  ⟨h, h.map _, h.map _⟩

theorem write (h : x.Within S) (slot : Nat) : (Runner.write slot x).Within S where
  generic := h.generic.andThen fun v _ => (within_setLocal slot v).map _
  int := h.int.andThen fun a _ => (within_setLocal slot a.intValue).map _
  double := h.double.andThen fun a _ => (within_setLocal slot a.doubleValue).map _

theorem tagged (h : x.Within S) (env : Env) (about : Meta) :
    (Runner.tagged env about x).Within S := by
  unfold Runner.tagged
  split
  · exact ⟨within_reporting h.generic _ _, within_reporting h.int _ _,
      within_reporting h.double _ _⟩
  · exact h

theorem sequence_nil : (Runner.sequence []).Within ∅ :=
  ⟨.pure trivial, .pure trivial, .pure trivial⟩

theorem sequence_cons {xs : List Runner} (h : x.Within S) (hxs : (Runner.sequence xs).Within T)
    (hd : Disjoint S T) : (Runner.sequence (x :: xs)).Within (S ∪ T) := by
  cases xs with
  | nil => exact h.subset Finset.subset_union_left
  | cons y ys =>
    exact ⟨h.generic.bind (fun _ _ => hxs.generic) hd, h.generic.bind (fun _ _ => hxs.int) hd,
      h.generic.bind (fun _ _ => hxs.double) hd⟩

/-! ### Arithmetic and reading -/

theorem binary {l r : Runner} (hl : l.Within S) (hr : r.Within T) (hd : Disjoint S T) (op : Op)
    {site : Nat} (hS : Apart site S) (hT : Apart site T) (env : Env) :
    (Binary.runner op site l r env).Within ({.value site} ∪ (S ∪ T)) := by
  -- both operands run before the one update of the site
  have hboth : ∀ {α β γ : Type} {x : Exec α} {y : Exec β} {f : α → β → Exec γ},
      Exec.Within S (fun _ => True) x → Exec.Within T (fun _ => True) y →
      (∀ a b, Exec.Within {.value site} (fun _ => True) (f a b)) →
      Exec.Within ({.value site} ∪ (S ∪ T)) (fun _ => True) (do f (← x) (← y)) := by
    intro α β γ x y f hx hy hf
    have hyf := fun a => hy.bind (fun b _ => hf a b) (Apart.disjoint_singleton (c := .value site) hT)
    refine (hx.bind (fun a _ => hyf a) ?_).subset ?_
    · exact Finset.disjoint_union_right.2 ⟨hd, Apart.disjoint_singleton (c := .value site) hS⟩
    · grind
  have happly : ∀ a b, Exec.Within ∅ (fun _ => True) (Binary.apply op a b) := fun _ _ =>
    within_idle fun _ => rfl
  have hgeneric : Exec.Within ({.value site} ∪ (S ∪ T)) (fun _ => True)
      (Binary.runGeneric op site l r) :=
    hboth hl.generic hr.generic fun a b => (happly a b).skip fun v _ =>
      (within_widenValue site _).map _
  have hsettle : ∀ v, Exec.Within {.value site} (fun _ => True) (Binary.settleInt site v) :=
    fun v => (within_widenValue site _).map _
  have hint : Exec.Within ({.value site} ∪ (S ∪ T)) (fun _ => True)
      (Binary.runInt op site l r) := by
    refine hboth hl.int hr.int fun a b => ?_
    split
    · split
      · exact (within_widenValue site _).map _
      · exact hsettle _
    · exact (happly _ _).skip fun v _ => hsettle v
  have hdouble : Exec.Within ({.value site} ∪ (S ∪ T)) (fun _ => True)
      (Binary.runDouble op site l r) := by
    refine hboth hl.double hr.double fun a b => ?_
    split
    · exact (within_widenValue site _).map _
    · exact (happly _ _).skip fun v _ => (within_widenValue site _).map _
  refine ⟨?_, hint, hdouble⟩
  show Exec.Within _ _ (Binary.runObserved op site l r env)
  unfold Binary.runObserved
  split
  · exact hgeneric
  · refine (within_idle fun _ => rfl).skip fun s _ => ?_
    split
    · exact hint.map _
    · exact hint.map _
    · exact hdouble.map _
    · exact hgeneric

theorem readElement {t i : Runner} (ht : t.Within S) (hi : i.Within T) (hd : Disjoint S T) :
    (Element.readRunner t i).Within (S ∪ T) := by
  refine ofGeneric (ht.generic.bind (fun _ _ => hi.generic.andThen fun v _ => ?_) hd)
  exact (within_key v).skip fun _ _ => within_idle fun _ => rfl

/-! ### Element writes -/

section

variable {I V : Finset Cell} {env : Env} {flags : StoreFlags} {site : Nat} {t i v : Runner}

theorem runIndex (hi : i.Within I) (hI : Apart site I) :
    Exec.Within (I ∪ {.index site}) (fun _ => True) (Write.runIndex env ⟨flags, site, i, v⟩) := by
  have hd : Disjoint I {.index site} := Apart.disjoint_singleton (c := .index site) hI
  refine (within_idle fun _ => rfl).skip fun s _ => ?_
  split
  · refine hi.int.bind (fun a _ => ?_) hd
    split
    · exact (within_widenIndex site _).map _
    · exact (within_widenIndex site _).map _
  · exact hi.generic.bind (fun a _ => (within_widenIndex site _).map _) hd

/-- The three ways to store, under a target and key that are found within other cells. -/
theorem runnerAfter (hv : v.Within V) (hV : Apart site V) {place : Exec (Value × Key)}
    (hp : Exec.Within S (fun p => p.2.Proper) place) (hd : Disjoint S (V ∪ {.value site})) :
    (Write.runnerAfter env ⟨flags, site, i, v⟩ place).Within (S ∪ (V ∪ {.value site})) := by
  have hdV : Disjoint V {.value site} := Apart.disjoint_singleton (c := .value site) hV
  have hgeneric : ∀ t {k : Key}, k.Proper → Exec.Within (V ∪ {.value site}) (fun _ => True)
      (Write.storeGeneric ⟨flags, site, i, v⟩ t k) := fun t k hk =>
    hv.generic.bind (fun w _ => (within_widenValue site _).andThen fun _ _ =>
      within_runStore flags t hk w) hdV
  have hint : ∀ t {k : Key}, k.Proper → Exec.Within (V ∪ {.value site}) (fun _ => True)
      (Write.storeInt ⟨flags, site, i, v⟩ t k) := by
    intro t k hk
    refine hv.int.bind (fun w _ => ?_) hdV
    split
    · exact (within_widenValue site _).andThen fun _ _ => (within_runStore flags t hk _).map _
    · exact (within_widenValue site _).andThen fun _ _ => (within_runStore flags t hk _).map _
  have hdouble : ∀ t {k : Key}, k.Proper → Exec.Within (V ∪ {.value site}) (fun _ => True)
      (Write.storeDouble ⟨flags, site, i, v⟩ t k) := by
    intro t k hk
    refine hv.double.bind (fun w _ => ?_) hdV
    split
    · exact (within_widenValue site _).andThen fun _ _ => (within_runStore flags t hk _).map _
    · exact (within_widenValue site _).andThen fun _ _ => (within_runStore flags t hk _).map _
  refine ⟨hp.bind (fun (t, k) hk => ?_) hd, hp.bind (fun (t, k) hk => hint t hk) hd,
    hp.bind (fun (t, k) hk => hdouble t hk) hd⟩
  show Exec.Within _ _ (Write.storeObserved env ⟨flags, site, i, v⟩ t k)
  unfold Write.storeObserved
  split
  · exact hgeneric t hk
  · refine (within_idle fun _ => rfl).skip fun s _ => ?_
    split
    · exact (hint t hk).map _
    · exact (hint t hk).map _
    · exact (hdouble t hk).map _
    · exact hgeneric t hk

theorem writeElement (ht : t.Within T) (hi : i.Within I) (hv : v.Within V) (hT : Apart site T)
    (hI : Apart site I) (hV : Apart site V) (hTI : Disjoint T I) (hTV : Disjoint T V)
    (hIV : Disjoint I V) :
    (Write.runner env ⟨flags, site, i, v⟩ t).Within
      ({.value site, .index site} ∪ (T ∪ (I ∪ V))) := by
  have hkey : Exec.Within (I ∪ {.index site}) Key.Proper
      (Write.runKey env ⟨flags, site, i, v⟩) := by
    refine (runIndex hi hI).andThen fun a _ => ?_
    split
    · exact .pure (Key.ofInt_proper _)
    · exact within_key _
  have hdT : Disjoint T (I ∪ {.index site}) := by
    rw [Finset.disjoint_left] at *
    grind [Apart, Cell.site]
  have hplace : Exec.Within (T ∪ (I ∪ {.index site})) (fun p => p.2.Proper)
      (Write.place env ⟨flags, site, i, v⟩ t) :=
    ht.generic.bind (fun _ _ => hkey.andThen fun _ hk => .pure hk) hdT
  have hd : Disjoint (T ∪ (I ∪ {.index site})) (V ∪ {.value site}) := by
    rw [Finset.disjoint_left] at *
    grind [Apart, Cell.site]
  refine (runnerAfter hv hV hplace hd).subset ?_
  grind

theorem keepIndex (cache : Option Nat) (w : Value) :
    Exec.Within ∅ (fun _ => True) (Write.keepIndex cache w) := by
  cases cache with
  | none => exact .pure trivial
  | some slot => exact within_setLocal slot w

theorem compound (cache : Option Nat) (ht : t.Within T) (hi : i.Within I) (hv : v.Within V)
    (hT : Apart site T) (hI : Apart site I) (hV : Apart site V) (hTI : Disjoint T I)
    (hTV : Disjoint T V) (hIV : Disjoint I V) :
    (Write.compoundRunner env ⟨flags, site, i, v⟩ cache t).Within
      ({.value site, .index site, .targetCheck site, .conversion site} ∪ (T ∪ (I ∪ V))) := by
  have hcheck : ∀ u, Exec.Within {.targetCheck site} (fun _ => True)
      (Write.runCheck ⟨flags, site, i, v⟩ u) := fun u =>
    (Within.step fun m => .publishTargetCheck m site).andThen fun _ _ =>
      within_idle fun _ => rfl
  have hint : ∀ a, Exec.Within {.conversion site} Key.Proper (Write.convertInt cache a) := fun a =>
    ((keepIndex cache _).skip fun _ _ => .pure (Key.ofInt_proper a)).subset (by simp)
  have hgeneric : ∀ a, Exec.Within {.conversion site} Key.Proper
      (Write.convertIndex ⟨flags, site, i, v⟩ cache a) := fun a =>
    (Within.step fun m => .publishConversion m site a).andThen fun _ _ =>
      (within_key a).skip fun _ hk => (keepIndex cache _).skip fun _ _ => .pure hk
  have hdI : Disjoint (I ∪ {.index site}) {.conversion site} := by
    rw [Finset.disjoint_left] at *
    grind [Apart, Cell.site]
  have hdcheck : Disjoint {.targetCheck site} (I ∪ {.index site} ∪ {.conversion site}) := by
    rw [Finset.disjoint_left] at *
    grind [Apart, Cell.site]
  have hdT : Disjoint T ({.targetCheck site} ∪ (I ∪ {.index site} ∪ {.conversion site})) := by
    rw [Finset.disjoint_left] at *
    grind [Apart, Cell.site]
  have hplace : Exec.Within (T ∪ ({.targetCheck site} ∪ (I ∪ {.index site} ∪ {.conversion site})))
      (fun p => p.2.Proper) (Write.compoundPlace env ⟨flags, site, i, v⟩ cache t) := by
    refine ht.generic.bind (fun u _ => (hcheck u).bind (fun _ _ => ?_) hdcheck) hdT
    refine (runIndex hi hI).bind (fun a _ => ?_) hdI
    split
    · exact (hint _).andThen fun _ hk => .pure hk
    · exact (hgeneric _).andThen fun _ hk => .pure hk
  have hd : Disjoint (T ∪ ({.targetCheck site} ∪ (I ∪ {.index site} ∪ {.conversion site})))
      (V ∪ {.value site}) := by
    rw [Finset.disjoint_left] at *
    grind [Apart, Cell.site]
  refine (runnerAfter hv hV hplace hd).subset ?_
  grind

end

/-! ### The other nodes -/

theorem patternExec {A : Finset Cell} {p s a : Runner} (hp : p.Within S) (hs : s.Within T)
    (ha : a.Within A) (hST : Disjoint S T) (hSA : Disjoint S A) (hTA : Disjoint T A) :
    (Match.runner p s a).Within (S ∪ (T ∪ A)) := by
  have hpattern : ∀ v, Exec.Within ∅ (fun _ => True) (Match.patternOf v) := by
    intro v
    unfold Match.patternOf
    split
    · exact .pure trivial
    · exact within_idle fun _ => rfl
  have hd : Disjoint S (T ∪ A) := Finset.disjoint_union_right.2 ⟨hST, hSA⟩
  refine ofGeneric (hp.generic.bind (fun v _ => (hpattern v).skip fun pat _ => ?_) hd)
  refine hs.generic.bind (fun w _ => (within_idle fun _ => rfl).skip fun text _ => ?_) hTA
  refine ha.generic.andThen fun position _ => ?_
  split
  · exact .pure trivial
  · exact (within_idle fun _ => rfl).skip fun o _ =>
      .step (c := none) fun m => .allocObject m o

theorem listFormat (env : Env) {l o : Runner} (hl : l.Within S) (ho : o.Within T)
    (hd : Disjoint S T) : (Locale.runner env l o).Within (S ∪ T) := by
  refine ofGeneric (hl.generic.bind (fun _ _ => ho.generic.andThen fun _ _ => ?_) hd)
  exact (within_idle fun _ => rfl).skip fun f _ =>
    .step (c := none) fun m => .allocFormat m

end Runner.Within

namespace Node

open Runner (Within)

mutual

/-- The run of a tree on any channel is a trail that updates each cell of the tree at most once, and
no other cells. -/
theorem runner_within (env : Env) : ∀ (n : Node) (base : Nat),
    (n.runner env base).Within (n.cells base)
  | .const _ v, _ => by
    simp only [runner, cells]
    exact .ofGeneric (.pure trivial)
  | .read _ slot, _ => by
    simp only [runner, cells]
    exact .ofGeneric (Exec.within_idle fun _ => rfl)
  | .patternLiteral _ p, _ => by
    simp only [runner, cells]
    exact .ofGeneric (.pure trivial)
  | .write _ slot v, base => by
    simp only [runner, cells]
    exact (runner_within env v base).write slot
  | .binary _ op l r, base => by
    simp only [runner, cells]
    exact (runner_within env l _).binary (runner_within env r _) (disjoint_cells (by omega)) op
      (apart_cells (by omega)) (apart_cells (by omega)) env
  | .readElement _ t i, base => by
    simp only [runner, cells]
    exact (runner_within env t _).readElement (runner_within env i _) (disjoint_cells (by omega))
  | .writeElement _ flags t i v, base => by
    simp only [runner, cells]
    exact (runner_within env t _).writeElement (runner_within env i _) (runner_within env v _)
      (apart_cells (by omega)) (apart_cells (by omega)) (apart_cells (by omega))
      (disjoint_cells (by omega)) (disjoint_cells (by omega)) (disjoint_cells (by omega))
  | .compound _ flags cache t i v, base => by
    simp only [runner, cells]
    exact (runner_within env t _).compound cache (runner_within env i _) (runner_within env v _)
      (apart_cells (by omega)) (apart_cells (by omega)) (apart_cells (by omega))
      (disjoint_cells (by omega)) (disjoint_cells (by omega)) (disjoint_cells (by omega))
  | .tagged about c, base => by
    simp only [runner, cells]
    exact (runner_within env c base).tagged env about
  | .sequence _ ns, base => by
    simp only [runner, cells]
    exact runnerAll_within env ns base
  | .patternExec _ p s a, base => by
    simp only [runner, cells]
    exact (runner_within env p _).patternExec (runner_within env s _) (runner_within env a _)
      (disjoint_cells (by omega)) (disjoint_cells (by omega)) (disjoint_cells (by omega))
  | .listFormat _ l o, base => by
    simp only [runner, cells]
    exact .listFormat env (runner_within env l _) (runner_within env o _)
      (disjoint_cells (by omega))

theorem runnerAll_within (env : Env) : ∀ (ns : List Node) (base : Nat),
    (Runner.sequence (runnerAll env ns base)).Within (cellsAll ns base)
  | [], _ => by
    simp only [runnerAll, cellsAll]
    exact .sequence_nil
  | n :: ns, base => by
    simp only [runnerAll, cellsAll]
    exact (runner_within env n base).sequence_cons (runnerAll_within env ns _)
      (disjoint_cellsAll (by omega))

end

end Node

end AdaptiveTree
