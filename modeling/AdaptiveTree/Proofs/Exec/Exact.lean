import AdaptiveTree.Exec.Run
import AdaptiveTree.Proofs.Exec.Simulation

/-!
# What typed channels miss

A typed channel gives an arbitrary value only when it is none of its own: `Speculated.IntMiss` and
`Speculated.DoubleMiss` say what a miss must be, and `Runner.Fits` that both typed channels of a
runner keep to it. Each kind of node ends a typed evaluation in one of three ways: it hands on what
its last child gave, it fits a value to the channel, or it has computed a number of the type. So its
runner fits if those of the children do, and every tree has a runner that fits
(`Node.runner_fits`).
-/

set_option autoImplicit false

namespace AdaptiveTree

namespace Speculated

/-- Only a value that is no integer is unexpected. -/
def IntMiss (r : Speculated Int32) : Prop :=
  ∀ v, r = .unexpected v → v.asInt? = none

/-- Only a value that is no number is unexpected. -/
def DoubleMiss (r : Speculated Float) : Prop :=
  ∀ v, r = .unexpected v → v.isNumber = false

theorem intMiss_exact (i : Int32) : IntMiss (.exact i) := nofun

theorem doubleMiss_exact (d : Float) : DoubleMiss (.exact d) := nofun

theorem intMiss_ofIntValue (v : Value) : IntMiss (ofIntValue v) := by
  intro u hu
  cases v <;> cases hu <;> rfl

theorem doubleMiss_ofDoubleValue (v : Value) : DoubleMiss (ofDoubleValue v) := by
  intro u hu
  cases v <;> cases hu <;> rfl

theorem IntMiss.exact_iff {r : Speculated Int32} (h : r.IntMiss) :
    (∃ i, r = .exact i) ↔ ∃ i, r.intValue = .int i := by
  cases r with
  | exact i => simp [intValue]
  | unexpected v =>
    have hv := h v rfl
    cases v <;> simp_all [intValue, Value.asInt?]

theorem DoubleMiss.exact_iff {r : Speculated Float} (h : r.DoubleMiss) :
    (∃ d, r = .exact d) ↔ r.doubleValue.isNumber = true := by
  cases r with
  | exact d => simp [doubleValue, Value.isNumber]
  | unexpected v => simp [doubleValue, h v rfl]

end Speculated

open Speculated

namespace Exec

variable {α β : Type} {P : α → Prop} {Q : β → Prop}

/-- Every result of the computation has the property. -/
def Gives (P : α → Prop) (x : Exec α) : Prop :=
  ∀ m a, (x m).1 = .ok a → P a

theorem Gives.pure {a : α} (h : P a) : Gives P (pure a) := by
  intro _ _ ha
  cases ha
  exact h

theorem Gives.bind {x : Exec α} {f : α → Exec β} (hx : Gives P x)
    (hf : ∀ a, P a → Gives Q (f a)) : Gives Q (x >>= f) := by
  intro m b hb
  rw [bind_apply] at hb
  have hres := hx m
  generalize x m = r at hb hres
  obtain ⟨e | a, m'⟩ := r
  · cases hb
  · exact hf a (hres a rfl) m' b hb

/-- What is computed last decides on the result. -/
theorem Gives.after {x : Exec α} {f : α → Exec β} (hf : ∀ a, Gives Q (f a)) : Gives Q (x >>= f) :=
  Gives.bind (P := fun _ => True) (fun _ _ _ => trivial) fun a _ => hf a

theorem Gives.reporting {x : Exec α} (h : Gives P x) (about : Meta) (value : α → Value) :
    Gives P (reporting about value x) := by
  intro m a ha
  rw [reporting_apply] at ha
  exact h _ a ha

end Exec

/-- Both typed channels miss only what they must. -/
structure Runner.Fits (r : Runner) : Prop where
  int : Exec.Gives IntMiss r.int
  double : Exec.Gives DoubleMiss r.double

namespace Runner.Fits

open Exec

variable {x : Runner}

theorem ofGeneric (x : Exec Value) : (Runner.ofGeneric x).Fits where
  int := .after fun v => .pure (intMiss_ofIntValue v)
  double := .after fun v => .pure (doubleMiss_ofDoubleValue v)

/-- A local write hands on what its value gave. -/
theorem write (h : x.Fits) (slot : Nat) : (Runner.write slot x).Fits where
  int := h.int.bind fun _ hr => .after fun _ => .pure hr
  double := h.double.bind fun _ hr => .after fun _ => .pure hr

theorem tagged (h : x.Fits) (env : Env) (about : Meta) : (Runner.tagged env about x).Fits := by
  unfold Runner.tagged
  split
  · exact ⟨h.int.reporting about _, h.double.reporting about _⟩
  · exact h

theorem sequence {xs : List Runner} (h : ∀ x ∈ xs, x.Fits) : (Runner.sequence xs).Fits := by
  fun_induction Runner.sequence xs with
  | case1 =>
    refine ⟨.pure ?_, .pure ?_⟩
    all_goals
      rintro v ⟨⟩
      rfl
  | case2 last => exact h last List.mem_cons_self
  | case3 first rest _ ih =>
    have hrest := ih fun y hy => h y (List.mem_cons_of_mem first hy)
    exact ⟨.after fun _ => hrest.int, .after fun _ => hrest.double⟩

theorem binary (op : Op) (site : Nat) (l r : Runner) (env : Env) :
    (Binary.runner op site l r env).Fits := by
  have hsettle : ∀ v, Gives IntMiss (Binary.settleInt site v) := fun v =>
    .after fun _ => .pure (intMiss_ofIntValue v)
  constructor
  · refine .after fun a => .after fun b => ?_
    split
    · split
      · exact .after fun _ => .pure (intMiss_exact _)
      · exact hsettle _
    · exact .after hsettle
  · refine .after fun a => .after fun b => ?_
    split
    · exact .after fun _ => .pure (doubleMiss_exact _)
    · exact .after fun v => .after fun _ => .pure (doubleMiss_ofDoubleValue v)

/-- An element write fits what was stored to the channel when its value missed it. -/
theorem runnerAfter (env : Env) (w : Write.Parts) (place : Exec (Value × Key)) :
    (Write.runnerAfter env w place).Fits := by
  constructor
  · refine .after fun (t, k) => .after fun r => ?_
    cases r with
    | exact i => exact .after fun _ => .after fun _ => .pure (intMiss_exact i)
    | unexpected v => exact .after fun _ => .after fun stored => .pure (intMiss_ofIntValue stored)
  · refine .after fun (t, k) => .after fun r => ?_
    cases r with
    | exact d => exact .after fun _ => .after fun _ => .pure (doubleMiss_exact d)
    | unexpected v =>
      exact .after fun _ => .after fun stored => .pure (doubleMiss_ofDoubleValue stored)

end Runner.Fits

namespace Node

mutual

theorem runner_fits (env : Env) : ∀ (n : Node) (base : Nat), (n.runner env base).Fits
  | .const .., _ | .read .., _ | .patternLiteral .., _ | .readElement .., _ | .patternExec .., _
  | .listFormat .., _ => by
    simp only [runner]
    exact .ofGeneric _
  | .write _ slot v, base => by
    simp only [runner]
    exact (runner_fits env v base).write slot
  | .binary _ op _ _, base => by
    simp only [runner]
    exact .binary op base _ _ env
  | .writeElement .., _ | .compound .., _ => by
    simp only [runner]
    exact .runnerAfter env _ _
  | .tagged about c, base => by
    simp only [runner]
    exact (runner_fits env c base).tagged env about
  | .sequence _ ns, base => by
    simp only [runner]
    exact .sequence (runnerAll_fits env ns base)

theorem runnerAll_fits (env : Env) : ∀ (ns : List Node) (base : Nat),
    ∀ x ∈ runnerAll env ns base, x.Fits
  | [], _ => by simp [runnerAll]
  | n :: ns, base => by
    simp only [runnerAll, List.mem_cons, forall_eq_or_imp]
    exact ⟨runner_fits env n base, runnerAll_fits env ns _⟩

end

/-- A typed channel misses only when it must: on the integer channel no integer is unexpected, and
on the double channel no number is. So the result is exact exactly when the value given is an
integer, or a number. -/
theorem typed_channel_exact_iff (n : Node) (env : Env) (base : Nat) (m : Machine) :
    (∀ r, ((n.runner env base).int m).1 = .ok r →
        (∀ i, r ≠ .unexpected (.int i)) ∧ ((∃ i, r = .exact i) ↔ ∃ i, r.intValue = .int i)) ∧
      ∀ r, ((n.runner env base).double m).1 = .ok r →
        (∀ i, r ≠ .unexpected (.int i)) ∧ (∀ d, r ≠ .unexpected (.double d)) ∧
          ((∃ d, r = .exact d) ↔ r.doubleValue.isNumber = true) := by
  have h := n.runner_fits env base
  refine ⟨fun r hr => ?_, fun r hr => ?_⟩
  · have hmiss := h.int m r hr
    exact ⟨fun i hi => (nomatch hmiss _ hi), hmiss.exact_iff⟩
  · have hmiss := h.double m r hr
    exact ⟨fun i hi => (nomatch hmiss _ hi), fun d hd => (nomatch hmiss _ hd), hmiss.exact_iff⟩

/-- A double that is stored to an array misses the integer channel only. -/
theorem typed_channel_exact_iff_stored_double :
    let t : Node := .writeElement {} {} (.read {} 0) (.const {} (.int 2)) (.read {} 1)
    let m : Machine := ⟨⟨#[.array []]⟩, .ofArgs 2 [.object 0, .double 0.5], .empty, 0, [], 0⟩
    let x := t.runner ⟨true, false, ⟨"en", []⟩⟩ 0
    let missed : Speculated Int32 := .unexpected (.double 0.5)
    let hit : Speculated Float := .exact 0.5
    ((x.int m).1 = .ok missed ∧ (x.double m).1 = .ok hit) ∧
      ((∀ i, missed ≠ .unexpected (.int i)) ∧
        ((∃ i, missed = .exact i) ↔ ∃ i, missed.intValue = .int i)) ∧
      (∀ i, hit ≠ .unexpected (.int i)) ∧ (∀ d, hit ≠ .unexpected (.double d)) ∧
      ((∃ d, hit = .exact d) ↔ hit.doubleValue.isNumber = true) := by
  intro t m x missed hit
  obtain ⟨hint, hdouble⟩ := typed_channel_exact_iff t ⟨true, false, ⟨"en", []⟩⟩ 0 m
  have hmissed : (x.int m).1 = .ok missed := rfl
  have hhit : (x.double m).1 = .ok hit := rfl
  exact ⟨⟨hmissed, hhit⟩, hint missed hmissed, hdouble hit hhit⟩

end Node

end AdaptiveTree
