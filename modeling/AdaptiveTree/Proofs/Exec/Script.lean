import AdaptiveTree.Proofs.Exec.Congruence
import AdaptiveTree.Proofs.Speculation

/-!
# What a node does with its children

`Script run cs x` says of a computation that it evaluates the parts `cs` one after the other, each
at most once and on a channel of its choice, and that nothing else it does takes notice of the
trace. It may stop before all parts are evaluated only when it fails. Every node but a reporting one
has a script of its children in their order, on each channel (`Node.runner_visits`).
-/

set_option autoImplicit false

namespace AdaptiveTree

open Exec

/-! ## Results on a channel -/

/-- What the evaluation on a channel gives. -/
def Channel.Result : Channel → Type
  | .generic => Value
  | .int => Speculated Int32
  | .double => Speculated Float

/-- The generic form of what the evaluation on a channel gives. -/
def Channel.value : (c : Channel) → c.Result → Value
  | .generic, v => v
  | .int, r => r.intValue
  | .double, r => r.doubleValue

/-- The evaluation on a channel. -/
def Runner.on (r : Runner) : (c : Channel) → Exec c.Result
  | .generic => r.generic
  | .int => r.int
  | .double => r.double

/-! ## Scripts -/

/-- The computation evaluates parts in this order, where `run` gives the runner of a part. -/
inductive Script {ι : Type} (run : ι → Runner) : List ι → {α : Type} → Exec α → Prop
  | own {α : Type} {x : Exec α} (h : Blind x) : Script run [] x
  | after {is : List ι} {α β : Type} {x : Exec α} {f : α → Exec β} (h : Blind x)
    (rest : ∀ a, Script run is (f a)) : Script run is (x >>= f)
  | visit {i : ι} {is : List ι} {β : Type} (c : Channel) {f : c.Result → Exec β}
    (rest : ∀ a, Script run is (f a)) : Script run (i :: is) ((run i).on c >>= f)

namespace Script

variable {ι : Type} {run : ι → Runner} {α β : Type} {x : Exec α} {f : α → Exec β}

theorem pure (a : α) : Script run [] (pure a) :=
  .own (blind_pure a)

/-- One script after another. -/
theorem bind {is js : List ι} (hx : Script run is x) (hf : ∀ a, Script run js (f a)) :
    Script run (is ++ js) (x >>= f) := by
  induction hx with
  | own h => exact .after h hf
  | after h _ ih =>
    rw [bind_assoc]
    exact .after h fun a => ih a hf
  | visit c _ ih =>
    rw [bind_assoc, List.cons_append]
    exact .visit c fun a => ih a hf

/-- A script, and then steps of the node itself. -/
theorem andThen {is : List ι} (hx : Script run is x) (hf : ∀ a, Script run [] (f a)) :
    Script run is (x >>= f) := by
  have h := hx.bind hf
  rwa [List.append_nil] at h

/-- The evaluation of one part. -/
theorem part (i : ι) (c : Channel) : Script run [i] ((run i).on c) := by
  rw [← bind_pure ((run i).on c)]
  exact .visit c pure

end Script

/-- On each channel the runner evaluates these parts in this order. -/
def Runner.Visits {ι : Type} (run : ι → Runner) (is : List ι) (r : Runner) : Prop :=
  ∀ c : Channel, Script run is (r.on c)

namespace Runner.Visits

variable {ι : Type} {run : ι → Runner}

theorem mk {is : List ι} {r : Runner} (generic : Script run is r.generic)
    (int : Script run is r.int) (double : Script run is r.double) : r.Visits run is
  | .generic => generic
  | .int => int
  | .double => double

theorem ofGeneric {is : List ι} {x : Exec Value} (h : Script run is x) :
    (Runner.ofGeneric x).Visits run is :=
  mk h (h.andThen fun _ => .pure _) (h.andThen fun _ => .pure _)

theorem write (slot : Nat) (i : ι) : (Runner.write slot (run i)).Visits run [i] :=
  mk (.visit .generic fun _ => .after (blind_setLocal slot _) fun _ => .pure _)
    (.visit .int fun _ => .after (blind_setLocal slot _) fun _ => .pure _)
    (.visit .double fun _ => .after (blind_setLocal slot _) fun _ => .pure _)

theorem binary (op : Op) (site : Nat) (i j : ι) (env : Env) :
    (Binary.runner op site (run i) (run j) env).Visits run [i, j] := by
  have hwiden := blind_widenValue site
  have hsettle : ∀ v, Script run [] (Binary.settleInt site v) := fun v =>
    .after (hwiden _) fun _ => .pure _
  have hgeneric : Script run [i, j] (Binary.runGeneric op site (run i) (run j)) :=
    .visit .generic fun a => .visit .generic fun b => .after (blind_apply op a b) fun _ =>
      .after (hwiden _) fun _ => .pure _
  have hint : Script run [i, j] (Binary.runInt op site (run i) (run j)) := by
    refine .visit .int fun (a : Speculated Int32) => .visit .int fun (b : Speculated Int32) => ?_
    split
    · split
      · exact .after (hwiden _) fun _ => .pure _
      · exact hsettle _
    · exact .after (blind_apply op _ _) hsettle
  have hdouble : Script run [i, j] (Binary.runDouble op site (run i) (run j)) := by
    refine .visit .double fun (a : Speculated Float) => ?_
    refine .visit .double fun (b : Speculated Float) => ?_
    split
    · exact .after (hwiden _) fun _ => .pure _
    · exact .after (blind_apply op _ _) fun _ => .after (hwiden _) fun _ => .pure _
  refine mk ?_ hint hdouble
  show Script run [i, j] (Binary.runObserved op site (run i) (run j) env)
  unfold Binary.runObserved
  split
  · exact hgeneric
  · refine .after (blind_site site) fun s => ?_
    split
    · exact hint.andThen fun _ => .pure _
    · exact hint.andThen fun _ => .pure _
    · exact hdouble.andThen fun _ => .pure _
    · exact hgeneric

theorem readElement (i j : ι) : (Element.readRunner (run i) (run j)).Visits run [i, j] :=
  ofGeneric <| .visit .generic fun _ => .visit .generic fun v => .after (blind_key v) fun _ =>
    .own fun _ _ => ⟨rfl, rfl⟩

/-! ### Element writes -/

section

variable {env : Env} {flags : StoreFlags} {site : Nat} {t i v : ι}

theorem runIndex : Script run [i] (Write.runIndex env ⟨flags, site, run i, run v⟩) := by
  have hwiden := blind_widenIndex site
  refine .after (blind_site site) fun s => ?_
  split
  · refine .visit .int fun a => ?_
    cases a with
    | exact i => exact .after (hwiden _) fun _ => .pure _
    | unexpected v => exact .after (hwiden _) fun _ => .pure _
  · exact .visit .generic fun a => .after (hwiden _) fun _ => .pure _

/-- The value is evaluated after what is needed to find the target and the key. -/
theorem runnerAfter {is : List ι} {place : Exec (Value × Key)} (hplace : Script run is place) :
    (Write.runnerAfter env ⟨flags, site, run i, run v⟩ place).Visits run (is ++ [v]) := by
  have hwiden := blind_widenValue site
  have hstore := blind_runStore flags
  have hgeneric : ∀ t k,
      Script run [v] (Write.storeGeneric ⟨flags, site, run i, run v⟩ t k) := fun t k =>
    .visit .generic fun w => .after (hwiden _) fun _ => .own (hstore t k w)
  have hint : ∀ t k, Script run [v] (Write.storeInt ⟨flags, site, run i, run v⟩ t k) := by
    refine fun t k => .visit .int fun w => ?_
    cases w with
    | exact a => exact .after (hwiden _) fun _ => .after (hstore t k _) fun _ => .pure _
    | unexpected a => exact .after (hwiden _) fun _ => .after (hstore t k _) fun _ => .pure _
  have hdouble : ∀ t k, Script run [v] (Write.storeDouble ⟨flags, site, run i, run v⟩ t k) := by
    refine fun t k => .visit .double fun w => ?_
    cases w with
    | exact a => exact .after (hwiden _) fun _ => .after (hstore t k _) fun _ => .pure _
    | unexpected a => exact .after (hwiden _) fun _ => .after (hstore t k _) fun _ => .pure _
  refine mk (hplace.bind fun (t, k) => ?_) (hplace.bind fun (t, k) => hint t k)
    (hplace.bind fun (t, k) => hdouble t k)
  show Script run [v] (Write.storeObserved env ⟨flags, site, run i, run v⟩ t k)
  unfold Write.storeObserved
  split
  · exact hgeneric t k
  · refine .after (blind_site site) fun s => ?_
    split
    · exact (hint t k).andThen fun _ => .pure _
    · exact (hint t k).andThen fun _ => .pure _
    · exact (hdouble t k).andThen fun _ => .pure _
    · exact hgeneric t k

theorem writeElement :
    (Write.runner env ⟨flags, site, run i, run v⟩ (run t)).Visits run [t, i, v] := by
  have hplace : Script run [t, i] (Write.place env ⟨flags, site, run i, run v⟩ (run t)) := by
    refine .visit .generic fun a => Script.andThen (Script.andThen runIndex fun ix => ?_)
      fun _ => .pure _
    cases ix with
    | int n => exact .pure _
    | generic w => exact .own (blind_key w)
  exact runnerAfter hplace

theorem compound (cache : Option Nat) :
    (Write.compoundRunner env ⟨flags, site, run i, run v⟩ cache (run t)).Visits run
      [t, i, v] := by
  have hkeep : ∀ w, Script run [] (Write.keepIndex cache w) := by
    intro w
    cases cache with
    | none => exact .pure _
    | some slot => exact .own (blind_setLocal slot w)
  have hcheck : ∀ a,
      Script run [] (Write.runCheck ⟨flags, site, run i, run v⟩ a) := fun a =>
    .after (blind_publishTargetCheck site) fun _ => .own (blind_ofExcept _)
  have hplace : Script run [t, i]
      (Write.compoundPlace env ⟨flags, site, run i, run v⟩ cache (run t)) := by
    refine .visit .generic fun a => Script.bind (hcheck a) fun _ =>
      Script.andThen runIndex fun ix => ?_
    cases ix with
    | int n => exact ((hkeep _).andThen fun _ => .pure _).andThen fun _ => .pure _
    | generic w =>
      refine Script.andThen ?_ fun _ => .pure _
      exact .after (blind_publishConversion site w) fun _ => .after (blind_key w) fun k =>
        (hkeep _).andThen fun _ => .pure _
  exact runnerAfter hplace

end

/-! ### The other nodes -/

theorem sequence (is : List ι) : (Runner.sequence (is.map run)).Visits run is := by
  induction is with
  | nil => exact mk (.pure _) (.pure _) (.pure _)
  | cons i is ih =>
    cases is with
    | nil => exact .part i
    | cons j js =>
      exact mk (.visit .generic fun _ => ih .generic) (.visit .generic fun _ => ih .int)
        (.visit .generic fun _ => ih .double)

theorem patternExec (i j k : ι) :
    (Match.runner (run i) (run j) (run k)).Visits run [i, j, k] := by
  have hdisplay : ∀ v, Blind (Exec.read fun m => m.heap.display v) := fun v =>
    blind_read fun _ _ => rfl
  have hpattern : ∀ v, Blind (Match.patternOf v) := by
    intro v m t
    cases v <;> exact ⟨rfl, rfl⟩
  refine ofGeneric <| .visit .generic fun v => .after (hpattern v) fun p =>
    .visit .generic fun s => .after (hdisplay s) fun text => .visit .generic fun position => ?_
  split
  · exact .pure _
  · exact .after (blind_ofExcept _) fun _ => .own fun _ _ => ⟨rfl, rfl⟩

theorem listFormat (env : Env) (i j : ι) :
    (Locale.runner env (run i) (run j)).Visits run [i, j] :=
  ofGeneric <| .visit .generic fun _ => .visit .generic fun _ =>
    .after (fun _ _ => ⟨rfl, rfl⟩) fun _ => .own fun _ _ => ⟨rfl, rfl⟩

end Runner.Visits

/-! ## Nodes -/

namespace Node

/-- Nodes with the numbers of their first sites, if the sites are numbered from `base` on. -/
def placed : List Node → Nat → List (Node × Nat)
  | [], _ => []
  | n :: ns, base => (n, base) :: placed ns (base + n.sites)

/-- The children of a node whose sites are numbered from `base` on, with the numbers of their first
sites. -/
def placedChildren (n : Node) (base : Nat) : List (Node × Nat) :=
  placed n.children (if n.isSite then base + 1 else base)

theorem mem_of_mem_placed {p : Node × Nat} {ns : List Node} {base : Nat}
    (h : p ∈ placed ns base) : p.1 ∈ ns := by
  induction ns generalizing base with
  | nil => cases h
  | cons n ns ih =>
    obtain rfl | h := List.mem_cons.1 h
    · exact List.mem_cons_self
    · exact List.mem_cons_of_mem n (ih h)

/-- The runner of a node in its place. -/
def placedRunner (env : Env) (p : Node × Nat) : Runner :=
  p.1.runner env p.2

theorem runnerAll_eq_map (env : Env) (ns : List Node) (base : Nat) :
    runnerAll env ns base = (placed ns base).map (placedRunner env) := by
  induction ns generalizing base with
  | nil => rfl
  | cons n ns ih => simp only [runnerAll, placed, List.map_cons, ih, placedRunner]

/-- A node that is no reporting one evaluates its children in their order. -/
theorem runner_visits (env : Env) {n : Node} (h : n.isTagged = false) (base : Nat) :
    (n.runner env base).Visits (placedRunner env) (n.placedChildren base) := by
  cases n with
  | const m v =>
    simp only [runner]
    exact .ofGeneric (.pure v)
  | read m slot =>
    simp only [runner]
    exact .ofGeneric (.own (blind_read fun _ _ => rfl))
  | write m slot v =>
    simp only [runner]
    exact .write slot (v, base)
  | binary m op l r =>
    simp only [runner]
    exact .binary op base (l, base + 1) (r, base + 1 + l.sites) env
  | readElement m t i =>
    simp only [runner]
    exact .readElement (t, base) (i, base + t.sites)
  | writeElement m flags t i v =>
    simp only [runner]
    exact Runner.Visits.writeElement (t := (t, base + 1)) (i := (i, base + 1 + t.sites))
      (v := (v, base + 1 + t.sites + i.sites))
  | compound m flags cache t i v =>
    simp only [runner]
    exact Runner.Visits.compound (t := (t, base + 1)) (i := (i, base + 1 + t.sites))
      (v := (v, base + 1 + t.sites + i.sites)) cache
  | tagged m c => cases h
  | sequence m ns =>
    simp only [runner, runnerAll_eq_map]
    exact .sequence _
  | patternLiteral m p =>
    simp only [runner]
    exact .ofGeneric (.pure _)
  | patternExec m p s a =>
    simp only [runner]
    exact .patternExec (p, base) (s, base + p.sites) (a, base + p.sites + s.sites)
  | listFormat m l o =>
    simp only [runner]
    exact .listFormat env (l, base) (o, base + l.sites)

end Node

end AdaptiveTree
