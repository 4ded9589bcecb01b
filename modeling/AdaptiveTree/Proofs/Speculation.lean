import AdaptiveTree.Node.Build
import AdaptiveTree.Proofs.Exec.Meaning

/-!
# Speculation is transparent

What a tree has observed, whether the typed channels may be used, and the channel on which the tree
is evaluated, decide how it is evaluated, but not what comes out of it. All evaluations from one
heap and frame either fail with the same fault or give the same value, and they leave the same heap
and frame, up to the representation of numbers (`speculation_transparent`).

The slots in which compound writes keep their indices may differ more, in that an index is a number
on one channel and its text on another. They are compared by the key that they address, and the tree
must read them as indices only. Both evaluations follow the meaning of the tree, so they agree.
-/

set_option autoImplicit false

namespace AdaptiveTree

open Exec

/-- The channels on which a tree is evaluated. -/
inductive Channel where
  | generic
  | int
  | double
deriving DecidableEq, Repr

/-- The evaluation on a channel, which gives a value also when the channel is a typed one. -/
def Runner.value (r : Runner) : Channel → Exec Value
  | .generic => r.generic
  | .int => do return (← r.int).intValue
  | .double => do return (← r.double).doubleValue

theorem Means.value {cached : List Nat} {pins : Nat → Option Value} {V : Value → Value → Prop}
    {x : Runner} {y : Exec Value} (h : Means cached pins V x y) (c : Channel) :
    Follows (Alike cached pins) V (x.value c) y := by
  cases c with
  | generic => exact h.generic
  | int => exact h.int.map fun _ _ h => h
  | double => exact h.double.map fun _ _ h => h

/-! ## Comparing outcomes -/

/-- The machines are the same up to the representation of numbers. Of the slots, those that keep
indices are compared by the key they address, and the hidden ones are not compared. -/
structure SameState (cached hidden : List Nat) (m n : Machine) : Prop where
  heap : m.heap.canon = n.heap.canon
  formats : m.formats = n.formats
  value : ∀ s, s ∉ hidden → s ∉ cached → (m.frame.get s).canon = (n.frame.get s).canon
  index : ∀ s, s ∉ hidden → s ∈ cached →
    m.heap.key (m.frame.get s) = n.heap.key (n.frame.get s)
  size : hidden = [] → m.frame.size = n.frame.size

/-- The same value and state up to the representation of numbers, or the same fault and state. -/
def SameOutcome (cached hidden : List Nat) :
    Except Fault Value × Machine → Except Fault Value × Machine → Prop :=
  Related (SameState cached hidden) fun v w m n => v.canon = w.canon ∧ SameState cached hidden m n

section

variable {cached hidden : List Nat}

theorem SameState.symm {m n : Machine} (h : SameState cached hidden m n) :
    SameState cached hidden n m where
  heap := h.heap.symm
  formats := h.formats.symm
  value s hs hc := (h.value s hs hc).symm
  index s hs hc := (h.index s hs hc).symm
  size he := (h.size he).symm

theorem SameState.trans {m n p : Machine} (h : SameState cached hidden m n)
    (h' : SameState cached hidden n p) : SameState cached hidden m p where
  heap := h.heap.trans h'.heap
  formats := h.formats.trans h'.formats
  value s hs hc := (h.value s hs hc).trans (h'.value s hs hc)
  index s hs hc := (h.index s hs hc).trans (h'.index s hs hc)
  size he := (h.size he).trans (h'.size he)

variable {r s t : Except Fault Value × Machine}

theorem SameOutcome.symm (h : SameOutcome cached hidden r s) : SameOutcome cached hidden s r :=
  (Related.symm h).mono (fun _ _ h => h.symm) fun _ _ _ _ h => ⟨h.1.symm, h.2.symm⟩

theorem SameOutcome.trans (h : SameOutcome cached hidden r s) (h' : SameOutcome cached hidden s t) :
    SameOutcome cached hidden r t :=
  Related.trans h h' (fun _ _ _ h h' => h.trans h') fun _ _ _ _ _ _ h h' =>
    ⟨h.1.trans h'.1, h.2.trans h'.2⟩

/-- Machines that are alike but for pinned slots are the same when these are hidden. -/
theorem Alike.sameState {pins : Nat → Option Value} {m n : Machine} (h : Alike cached pins m n)
    (hpins : ∀ s, s ∉ hidden → pins s = none) : SameState cached hidden m n where
  heap := h.heap
  formats := h.formats
  value s hs hc := by
    have hslot := h.slot s (hpins s hs)
    rwa [SlotAlike, if_neg hc] at hslot
  index s hs _ := Heap.key_congr h.heap (h.slot s (hpins s hs)).indexForm
  size he := h.size fun s => hpins s (he ▸ List.not_mem_nil)

end

/-- What follows another computation has its outcome, from machines with the same heap and frame. -/
theorem Exec.Follows.sameOutcome {cached : List Nat} {x y : Exec Value}
    (h : Follows (Alike cached fun _ => none) SameValue x y) (hidden : List Nat) (m : Machine)
    (profile : Profile) (epoch : Nat) (trace : List Event) :
    SameOutcome cached hidden (x { m with profile, epoch, trace }) (y m) := by
  have hstart : Alike cached (fun _ => none) { m with profile, epoch, trace } m :=
    .of_eq rfl rfl rfl
  refine (h hstart).mono (fun _ _ h => h.sameState fun _ _ => rfl) ?_
  rintro v w m n ⟨hvw, hmn⟩
  exact ⟨hvw, hmn.sameState fun _ _ => rfl⟩

/-! ## Transparency -/

namespace Node

/-- Whether the tree reads the slots in which it keeps indices as indices only. -/
def WellCached (t : Node) : Prop :=
  t.confined t.caches false = true

instance (t : Node) : Decidable t.WellCached :=
  inferInstanceAs (Decidable (_ = true))

/-- Evaluations of a tree from one heap and frame have the same outcome, whatever was observed and
recorded before, whether or not the typed channels may be used, and on any channels. -/
theorem speculation_transparent (t : Node) (ht : t.WellCached) (env : Env)
    (speculating recording : Bool) (base base' : Nat) (c c' : Channel) (m : Machine)
    (profile : Profile) (epoch : Nat) (trace : List Event) :
    SameOutcome t.caches [] ((t.runner env base).value c m)
      ((t.runner { env with speculating, recording } base').value c'
        { m with profile, epoch, trace }) := by
  have hfollows : ∀ (e : Env) (b : Nat) (ch : Channel),
      Follows (Alike t.caches fun _ => none) SameValue ((t.runner e b).value ch)
        (t.meaning e.locales) := fun e b ch =>
    (t.runner_means e b ht (List.Subset.refl _) fun _ _ => rfl).value ch
  have hleft := (hfollows env base c).sameOutcome [] m m.profile m.epoch m.trace
  have hright := (hfollows { env with speculating, recording } base' c').sameOutcome [] m profile
    epoch trace
  exact hleft.trans hright.symm

/-- An assignment `a[i] += 1` on the integer channel for the first time, and after it has met
arbitrary values. -/
theorem speculation_transparent_increment :
    let t := ((Builder.mk {}).compoundAssign ⟨#["a", "i"], 0⟩ .add (.read {} 0) (.read {} 1)
      (.const {} (.int 1))).1
    let m : Machine := ⟨⟨#[.array [.int 7]]⟩, .ofArgs 4 [.object 0, .string "0"], .empty, 0, [], 0⟩
    let met : Profile := ⟨#[{ value := .generic, index := .generic }, { value := .double }]⟩
    t.WellCached ∧ SameOutcome t.caches [] ((t.runner ⟨true, false, ⟨"en", []⟩⟩ 0).value .int m)
      ((t.runner ⟨false, true, ⟨"en", []⟩⟩ 0).value .generic { m with profile := met }) := by
  intro t m met
  have ht : t.WellCached := by decide
  exact ⟨ht, speculation_transparent t ht ⟨true, false, ⟨"en", []⟩⟩ false true 0 0 .int .generic m
    met 0 []⟩

end Node

end AdaptiveTree
