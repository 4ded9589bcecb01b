import AdaptiveTree.Proofs.Exec.Congruence

/-!
# Reporting nodes only report

Reporting nodes can be renamed and left out without any effect but on the events: `n.erase g` is `n`
with its reporting nodes under the names that `g` gives them, and without those that it gives none.
Its run is that of `n` with the events renamed and left out alike (`runner_erase`,
`run_of_erase_eq`).

The proof runs both trees in step. What neither reads nor changes the trace is `Blind` and follows
itself, so that following up to the trace is a congruence (`congruent_retraced`); the runner of a
node follows another one channel by channel if those of its children do (`Echoes`).
-/

set_option autoImplicit false

namespace AdaptiveTree

open Exec

/-- The event under the name that `g` gives its node; none if `g` leaves the node out. -/
def Event.under (g : Meta → Option Meta) : Event → Option Event
  | .enter m => (g m).map .enter
  | .leave m v => (g m).map fun m => .leave m v
  | .fail m f => (g m).map fun m => .fail m f

namespace Node

mutual

/-- The tree with its reporting nodes renamed or left out as `g` says. The metadata of its other
nodes, which evaluation does not depend on, is dropped. -/
def erase (g : Meta → Option Meta) : Node → Node
  | .const _ v => .const {} v
  | .read _ s => .read {} s
  | .patternLiteral _ p => .patternLiteral {} p
  | .write _ s v => .write {} s (v.erase g)
  | .binary _ op l r => .binary {} op (l.erase g) (r.erase g)
  | .readElement _ t i => .readElement {} (t.erase g) (i.erase g)
  | .writeElement _ f t i v => .writeElement {} f (t.erase g) (i.erase g) (v.erase g)
  | .compound _ f c t i v => .compound {} f c (t.erase g) (i.erase g) (v.erase g)
  | .tagged m c =>
    match g m with
    | some m => .tagged m (c.erase g)
    | none => c.erase g
  | .sequence _ ns => .sequence {} (eraseAll g ns)
  | .patternExec _ p s a => .patternExec {} (p.erase g) (s.erase g) (a.erase g)
  | .listFormat _ l o => .listFormat {} (l.erase g) (o.erase g)

/-- Renames and leaves out reporting nodes in several trees. -/
def eraseAll (g : Meta → Option Meta) : List Node → List Node
  | [] => []
  | n :: ns => n.erase g :: eraseAll g ns

end

mutual

@[simp] theorem sites_erase (g : Meta → Option Meta) : ∀ n : Node, (n.erase g).sites = n.sites
  | .const .. | .read .. | .patternLiteral .. => by simp only [erase, sites]
  | .write _ _ v => by simp only [erase, sites, sites_erase g v]
  | .binary _ _ l r => by simp only [erase, sites, sites_erase g l, sites_erase g r]
  | .readElement _ t i => by simp only [erase, sites, sites_erase g t, sites_erase g i]
  | .writeElement _ _ t i v => by
    simp only [erase, sites, sites_erase g t, sites_erase g i, sites_erase g v]
  | .compound _ _ _ t i v => by
    simp only [erase, sites, sites_erase g t, sites_erase g i, sites_erase g v]
  | .tagged m c => by
    have hc := sites_erase g c
    simp only [erase]
    split <;> simp only [sites, hc]
  | .sequence _ ns => by simp only [erase, sites, sitesAll_erase g ns]
  | .patternExec _ p s a => by
    simp only [erase, sites, sites_erase g p, sites_erase g s, sites_erase g a]
  | .listFormat _ l o => by simp only [erase, sites, sites_erase g l, sites_erase g o]

theorem sitesAll_erase (g : Meta → Option Meta) : ∀ ns : List Node,
    sitesAll (eraseAll g ns) = sitesAll ns
  | [] => rfl
  | n :: ns => by simp only [eraseAll, sitesAll, sites_erase g n, sitesAll_erase g ns]

end

end Node

/-! ## Runners in step -/

/-- The second machine is the first one with its trace changed by `φ`. -/
def Retraced (φ : List Event → List Event) : Link := fun m n =>
  n = { m with trace := φ m.trace }

theorem Blind.follows {α : Type} {x : Exec α} (h : Blind x) (φ : List Event → List Event) :
    Follows (Retraced φ) Eq x x := by
  intro m n hr
  obtain ⟨hrun, htrace⟩ := h m (φ m.trace)
  rw [hr, hrun]
  generalize x m = r at htrace
  obtain ⟨a, m'⟩ := r
  have hm : Retraced φ m' { m' with trace := φ m.trace } := by
    rw [Retraced, show m'.trace = m.trace from htrace]
  cases a with
  | ok a => exact .ok ⟨rfl, hm⟩
  | error e => exact .error hm

theorem congruent_retraced (φ : List Event → List Event) :
    Congruent fun _ => Follows (Retraced φ) Eq where
  blind h := h.follows φ
  bind h hf := h.bind_eq hf

/-- Each channel of the second runner follows the same channel of the first, up to the trace. -/
structure Echoes (φ : List Event → List Event) (x y : Runner) : Prop where
  generic : Follows (Retraced φ) Eq x.generic y.generic
  int : Follows (Retraced φ) Eq x.int y.int
  double : Follows (Retraced φ) Eq x.double y.double

namespace Echoes

variable {φ : List Event → List Event} {x y : Runner}

theorem linked (h : Echoes φ x y) : Linked (fun _ => Follows (Retraced φ) Eq) x y :=
  ⟨h.generic, h.int, h.double⟩

theorem of_linked (h : Linked (fun _ => Follows (Retraced φ) Eq) x y) : Echoes φ x y :=
  ⟨h.generic, h.int, h.double⟩

end Echoes

/-! ## Reporting nodes -/

/-- Adding an event to a trace adds what `g` makes of it to the changed trace. -/
def Renames (g : Meta → Option Meta) (φ : List Event → List Event) : Prop :=
  ∀ (t : List Event) (e : Event), φ (t ++ [e]) = φ t ++ (e.under g).toList

section

variable {g : Meta → Option Meta} {φ : List Event → List Event} {α : Type} {x y : Exec α}

theorem Retraced.add (hφ : Renames g φ) {m n : Machine} (h : Retraced φ m n) {e : Event}
    {es : List Event} (he : (e.under g).toList = es) :
    Retraced φ { m with trace := m.trace ++ [e] } { n with trace := n.trace ++ es } := by
  rw [Retraced] at h ⊢
  rw [h, hφ, he]

theorem reporting_renamed (hφ : Renames g φ) {about about' : Meta} (hg : g about = some about')
    (value : α → Value) (h : Follows (Retraced φ) Eq x y) :
    Follows (Retraced φ) Eq (reporting about value x) (reporting about' value y) := by
  intro m n hr
  have henter : ((Event.enter about).under g).toList = [.enter about'] := by
    rw [Event.under, hg]
    rfl
  have hxy := h (hr.add hφ henter)
  simp only [reporting]
  generalize x { m with trace := m.trace ++ [.enter about] } = r at hxy
  generalize y { n with trace := n.trace ++ [.enter about'] } = s at hxy
  cases hxy with
  | ok hab =>
    obtain ⟨rfl, hm⟩ := hab
    exact .ok ⟨rfl, hm.add hφ (by rw [Event.under, hg]; rfl)⟩
  | error hm => exact .error (hm.add hφ (by rw [Event.under, hg]; rfl))

theorem reporting_dropped (hφ : Renames g φ) {about : Meta} (hg : g about = none)
    (value : α → Value) (h : Follows (Retraced φ) Eq x y) :
    Follows (Retraced φ) Eq (reporting about value x) y := by
  intro m n hr
  have hdrop : ∀ {m n : Machine} (e : Event), (e.under g).toList = [] → Retraced φ m n →
      Retraced φ { m with trace := m.trace ++ [e] } n := fun {m n} e he hr => by
    simpa using hr.add hφ he
  have hxy := h (hdrop (.enter about) (by rw [Event.under, hg]; rfl) hr)
  simp only [reporting]
  generalize x { m with trace := m.trace ++ [.enter about] } = r at hxy
  generalize y n = s at hxy
  cases hxy with
  | ok hab =>
    obtain ⟨rfl, hm⟩ := hab
    exact .ok ⟨rfl, hdrop _ (by rw [Event.under, hg]; rfl) hm⟩
  | error hm => exact .error (hdrop _ (by rw [Event.under, hg]; rfl) hm)

end

namespace Echoes

variable {g : Meta → Option Meta} {φ : List Event → List Event} {x y : Runner}

theorem tagged_renamed (hφ : Renames g φ) {about about' : Meta} (hg : g about = some about')
    (env : Env) (h : Echoes φ x y) :
    Echoes φ (.tagged env about x) (.tagged env about' y) := by
  unfold Runner.tagged
  split
  · exact ⟨reporting_renamed hφ hg _ h.generic, reporting_renamed hφ hg _ h.int,
      reporting_renamed hφ hg _ h.double⟩
  · exact h

theorem tagged_dropped (hφ : Renames g φ) {about : Meta} (hg : g about = none) (env : Env)
    (h : Echoes φ x y) : Echoes φ (.tagged env about x) y := by
  unfold Runner.tagged
  split
  · exact ⟨reporting_dropped hφ hg _ h.generic, reporting_dropped hφ hg _ h.int,
      reporting_dropped hφ hg _ h.double⟩
  · exact h

end Echoes

namespace Node

variable {g : Meta → Option Meta} {φ : List Event → List Event}

mutual

/-- Renaming and leaving out reporting nodes changes the events of a run alike, and nothing else. -/
theorem runner_erase (hφ : Renames g φ) (env : Env) : ∀ (n : Node) (base : Nat),
    Echoes φ (n.runner env base) ((n.erase g).runner env base)
  | .const _ v, _ => by
    simp only [erase, runner]
    exact .of_linked ((congruent_retraced φ).ofGeneric (.pure rfl))
  | .read _ slot, _ => by
    simp only [erase, runner]
    exact .of_linked ((congruent_retraced φ).ofGeneric ((blind_read fun _ _ => rfl).follows φ))
  | .write _ slot v, base => by
    simp only [erase, runner]
    exact .of_linked ((congruent_retraced φ).write (runner_erase hφ env v _).linked slot)
  | .binary _ op l r, base => by
    simp only [erase, runner, sites_erase]
    exact .of_linked ((congruent_retraced φ).binary (runner_erase hφ env l _).linked
      (runner_erase hφ env r _).linked op base env)
  | .readElement _ t i, base => by
    simp only [erase, runner, sites_erase]
    exact .of_linked ((congruent_retraced φ).readElement (runner_erase hφ env t _).linked
      (runner_erase hφ env i _).linked)
  | .writeElement _ flags t i v, base => by
    simp only [erase, runner, sites_erase]
    exact .of_linked ((congruent_retraced φ).writeElement
      (fun t k w => (blind_runStore flags t k w).follows φ) (runner_erase hφ env t _).linked
      (runner_erase hφ env i _).linked (runner_erase hφ env v _).linked)
  | .compound _ flags cache t i v, base => by
    simp only [erase, runner, sites_erase]
    exact .of_linked ((congruent_retraced φ).compound cache
      (fun t k w => (blind_runStore flags t k w).follows φ) (runner_erase hφ env t _).linked
      (runner_erase hφ env i _).linked (runner_erase hφ env v _).linked)
  | .tagged about c, base => by
    have hc := runner_erase hφ env c base
    simp only [erase, runner]
    cases hg : g about with
    | some about' => exact .tagged_renamed hφ hg env hc
    | none => exact .tagged_dropped hφ hg env hc
  | .sequence _ ns, base => by
    simp only [erase, runner]
    exact .of_linked ((congruent_retraced φ).sequence (runnerAll_erase hφ env ns base))
  | .patternLiteral _ p, _ => by
    simp only [erase, runner]
    exact .of_linked ((congruent_retraced φ).ofGeneric (.pure rfl))
  | .patternExec _ p s a, base => by
    simp only [erase, runner, sites_erase]
    exact .of_linked ((congruent_retraced φ).patternExec (runner_erase hφ env p _).linked
      (runner_erase hφ env s _).linked (runner_erase hφ env a _).linked)
  | .listFormat _ l o, base => by
    simp only [erase, runner, sites_erase]
    exact .of_linked ((congruent_retraced φ).listFormat env (runner_erase hφ env l _).linked
      (runner_erase hφ env o _).linked)

theorem runnerAll_erase (hφ : Renames g φ) (env : Env) : ∀ (ns : List Node) (base : Nat),
    List.Forall₂ (Linked fun _ => Follows (Retraced φ) Eq) (runnerAll env ns base)
      (runnerAll env (eraseAll g ns) base)
  | [], _ => by
    simp only [eraseAll, runnerAll]
    exact .nil
  | n :: ns, base => by
    simp only [eraseAll, runnerAll, sites_erase]
    exact .cons (runner_erase hφ env n base).linked (runnerAll_erase hφ env ns _)

end

end Node

section

variable {α : Type} {x y : Exec α} {φ : List Event → List Event}

/-- The outcome of a computation that follows another up to the trace. -/
theorem Exec.Follows.run_eq (h : Follows (Retraced φ) Eq x y) (m : Machine) :
    y { m with trace := φ m.trace } =
      ((x m).1, { (x m).2 with trace := φ (x m).2.trace }) := by
  have hxy := h (show Retraced φ m { m with trace := φ m.trace } from rfl)
  generalize x m = r at hxy
  generalize y { m with trace := φ m.trace } = s at hxy
  cases hxy with
  | ok hab => rw [hab.1, show _ = _ from hab.2]
  | error hm => rw [show _ = _ from hm]

end

theorem renames_filterMap (g : Meta → Option Meta) (es : List Event) :
    Renames g fun t => es ++ t.filterMap (Event.under g) := by
  intro t e
  cases h : e.under g <;> simp [h]

theorem renames_id : Renames some id := by
  intro t e
  cases e <;> rfl

/-- Two trees of which one is the other after renaming and leaving out reporting nodes: their runs
differ in the events only. -/
theorem Node.run_of_erase_eq {α : Type} {channel : Runner → Exec α}
    (hchannel : ∀ {φ : List Event → List Event} {x y : Runner}, Echoes φ x y →
      Follows (Retraced φ) Eq (channel x) (channel y))
    {g : Meta → Option Meta} {n u : Node} (h : n.erase g = u.erase some) (env : Env) (base : Nat)
    (m : Machine) :
    let (result, final) := channel (n.runner env base) { m with trace := [] }
    channel (u.runner env base) m =
      (result, { final with trace := m.trace ++ final.trace.filterMap (Event.under g) }) := by
  have hn := (hchannel (n.runner_erase (renames_filterMap g m.trace) env base)).run_eq
    { m with trace := [] }
  have hu := (hchannel (u.runner_erase renames_id env base)).run_eq m
  rw [h] at hn
  simp only [List.filterMap_nil, List.append_nil] at hn
  have hm : channel (u.runner env base) m = channel ((u.erase some).runner env base) m := hu.symm
  rw [hm]
  exact hn

end AdaptiveTree
