import AdaptiveTree.Proofs.Exec.Trail
import AdaptiveTree.Proofs.Speculation
import Mathlib.Algebra.BigOperators.Group.Finset.Basic
import Mathlib.Algebra.Order.BigOperators.Group.Finset

/-!
# Respecialization is monotone, counted and bounded

What a tree has learnt only grows: kinds widen, a part that was made stays, and an index conversion
forgets nothing that it has met. One execution raises the epoch by exactly the number of cells that
it invalidates, and any number of executions, each with a heap, a frame and a channel of its own, by
no more than the nodes of the tree allow (`Node.respecialization`).

The count is exact because no cell is updated twice in one run: the profiles before and after then
tell of every update (`Trail.counted`). For the bound, a cell that holds an observation has so many
invalidations left (`Observation.left`), and each that happens uses up one of them.
-/

set_option autoImplicit false

namespace AdaptiveTree

/-! ## Observations -/

/-- The order of kinds: nothing yet, integers, doubles, all values. -/
inductive Kind.NoWider : Kind → Kind → Prop
  | refl (k : Kind) : NoWider k k
  | uninitialized (k : Kind) : NoWider .uninitialized k
  | int : NoWider .int .double
  | generic (k : Kind) : NoWider k .generic

theorem Kind.NoWider.trans {k k' k'' : Kind} (h : k.NoWider k') (h' : k'.NoWider k'') :
    k.NoWider k'' := by
  cases h with
  | refl => exact h'
  | uninitialized => exact .uninitialized k''
  | int =>
    cases h' with
    | refl => exact .int
    | generic => exact .generic _
  | generic =>
    cases h'
    · exact .generic k
    · exact .generic k

theorem Kind.noWider_widen (k next : Kind) : k.NoWider (k.widen next) := by
  cases k <;> cases next <;> constructor

/-- Everything that the first conversion has met, the second has met. -/
instance : LE IndexKinds where
  le k k' := k.int ≤ k'.int ∧ k.double ≤ k'.double ∧ k.string ≤ k'.string ∧ k.other ≤ k'.other

theorem IndexKinds.le_trans {k k' k'' : IndexKinds} (h : k ≤ k') (h' : k' ≤ k'') : k ≤ k'' :=
  ⟨h.1.trans h'.1, h.2.1.trans h'.2.1, h.2.2.1.trans h'.2.2.1, h.2.2.2.trans h'.2.2.2⟩

theorem IndexKinds.le_see (k : IndexKinds) (v : Value) : k ≤ k.see v := by
  cases v <;> refine ⟨?_, ?_, ?_, ?_⟩ <;> simp [see, Bool.le_true]

/-- What a cell holds. -/
inductive Observation where
  | kind (k : Kind)
  | targetCheck (p : Part Unit)
  | conversion (p : Part IndexKinds)

namespace Observation

/-- The second observation can come after the first: the kind is no narrower, a part that was made
is still there, and an index conversion has met no less. -/
def Grows : Observation → Observation → Prop
  | .kind k, .kind k' => k.NoWider k'
  | .targetCheck p, .targetCheck p' => p.isMade = true → p'.isMade = true
  | .conversion p, .conversion p' => ∀ seen ∈ p.made?, ∃ seen' ∈ p'.made?, seen ≤ seen'
  | _, _ => False

/-- Whether going from the first observation to the second is an invalidation: the kind was not the
first one and is another now, or the part is new. -/
def invalidated : Observation → Observation → Bool
  | .kind k, .kind k' => k != .uninitialized && k' != k
  | .targetCheck p, .targetCheck p' => !p.isMade && p'.isMade
  | .conversion p, .conversion p' => !p.isMade && p'.isMade
  | _, _ => false

/-- How many invalidations can still come. -/
def left : Observation → Nat
  | .kind .uninitialized | .kind .int => 2
  | .kind .double => 1
  | .kind .generic => 0
  | .targetCheck p => p.invalidations
  | .conversion p => p.invalidations

theorem Grows.refl (o : Observation) : o.Grows o := by
  cases o with
  | kind k => exact Kind.NoWider.refl k
  | targetCheck p => exact id
  | conversion p => exact fun seen hs => ⟨seen, hs, by simp [LE.le]⟩

theorem Grows.trans {o o' o'' : Observation} (h : o.Grows o') (h' : o'.Grows o'') :
    o.Grows o'' := by
  cases o <;> cases o' <;> cases o'' <;> simp only [Grows] at h h' ⊢
  · exact h.trans h'
  · exact fun hp => h' (h hp)
  · intro seen hs
    obtain ⟨seen', hs', hle⟩ := h seen hs
    obtain ⟨seen'', hs'', hle'⟩ := h' seen' hs'
    exact ⟨seen'', hs'', IndexKinds.le_trans hle hle'⟩

@[simp] theorem invalidated_self (o : Observation) : o.invalidated o = false := by
  cases o <;> simp [invalidated]

theorem left_kind_le (k : Kind) : (kind k).left ≤ 2 := by
  cases k <;> decide

/-- An invalidation uses up one of those that were left. -/
theorem left_add_invalidated {o o' : Observation} (h : o.Grows o') :
    o'.left + (if o.invalidated o' then 1 else 0) ≤ o.left := by
  cases o <;> cases o' <;> simp only [Grows] at h
  · rename_i k k'
    cases h with
    | refl => simp [invalidated]
    | uninitialized => exact left_kind_le k'
    | int => decide
    | generic => cases k <;> decide
  · simp only [invalidated, left, Part.invalidations]
    grind
  · rename_i p p'
    have hmade : p.isMade = true → p'.isMade = true := by
      intro hp
      obtain ⟨seen, hs⟩ := Option.isSome_iff_exists.1 hp
      obtain ⟨seen', hs', -⟩ := h seen hs
      exact Option.isSome_iff_exists.2 ⟨seen', hs'⟩
    simp only [invalidated, left, Part.invalidations]
    grind

end Observation

/-- What a cell of the site holds. -/
def Site.observed (s : Site) : Cell → Observation
  | .value _ => .kind s.value
  | .index _ => .kind s.index
  | .targetCheck _ => .targetCheck s.targetCheck
  | .conversion _ => .conversion s.conversion

/-- What a cell holds. -/
def Profile.observed (p : Profile) (c : Cell) : Observation :=
  (p.get c.site).observed c

/-! ## Counted runs -/

/-- From one machine to the next, the cells outside the list hold what they held, all cells grow,
and the epoch counts the cells of the list that were invalidated. -/
structure Counted (cs : List Cell) (m n : Machine) : Prop where
  outside : ∀ c, c ∉ cs → n.profile.observed c = m.profile.observed c
  grows : ∀ c, (m.profile.observed c).Grows (n.profile.observed c)
  epoch : n.epoch = m.epoch +
    cs.countP fun c => (m.profile.observed c).invalidated (n.profile.observed c)

theorem Counted.of_eq {m n : Machine} (hp : n.profile = m.profile) (he : n.epoch = m.epoch) :
    Counted [] m n where
  outside _ _ := by rw [hp]
  grows _ := by
    rw [hp]
    exact .refl _
  epoch := he

theorem Counted.append {cs ds : List Cell} {m n p : Machine} (h : Counted cs m n)
    (h' : Counted ds n p) (hd : cs.Disjoint ds) : Counted (cs ++ ds) m p where
  outside c hc := by
    rw [List.mem_append, not_or] at hc
    rw [h'.outside c hc.2, h.outside c hc.1]
  grows c := (h.grows c).trans (h'.grows c)
  epoch := by
    -- neither part touches the cells of the other, so each sees its own updates alone
    have hcs : ∀ c ∈ cs, p.profile.observed c = n.profile.observed c := fun c hc =>
      h'.outside c fun hc' => hd hc hc'
    have hds : ∀ c ∈ ds, n.profile.observed c = m.profile.observed c := fun c hc =>
      h.outside c fun hc' => hd hc' hc
    rw [h'.epoch, h.epoch, List.countP_append, Nat.add_assoc]
    congr 2
    · exact List.countP_congr fun c hc => by rw [hcs c hc]
    · exact List.countP_congr fun c hc => by rw [hds c hc]

/-- The update of one cell: the site is replaced by one that differs in this cell only. -/
theorem Counted.update {m n : Machine} {c : Cell} {s : Site}
    (hp : n.profile = m.profile.set c.site s)
    (hothers : ∀ d : Cell, d.site = c.site → d ≠ c →
      s.observed d = (m.profile.get c.site).observed d)
    (hgrows : (m.profile.observed c).Grows (s.observed c))
    (he : n.epoch = m.epoch +
      if (m.profile.observed c).invalidated (s.observed c) then 1 else 0) :
    Counted [c] m n := by
  have hself : n.profile.observed c = s.observed c := by
    rw [Profile.observed, hp, Profile.get_set, if_pos rfl]
  have hother : ∀ d, d ≠ c → n.profile.observed d = m.profile.observed d := by
    intro d hd
    rw [Profile.observed, Profile.observed, hp, Profile.get_set]
    split
    · rename_i hsite
      rw [hothers d hsite hd, hsite]
    · rfl
  refine ⟨fun d hd => hother d (by simpa using hd), fun d => ?_, ?_⟩
  · by_cases hd : d = c
    · rw [hd, hself]
      exact hgrows
    · rw [hother d hd]
      exact .refl _
  · rw [he, List.countP_singleton, hself]

theorem Kind.invalidations_eq (k next : Kind) :
    k.invalidations next = if k != .uninitialized && k.widen next != k then 1 else 0 := by
  cases k <;> cases next <;> rfl

theorem Part.invalidations_eq {α : Type} (p : Part α) {p' : Part α} (h : p'.isMade = true) :
    p.invalidations = if !p.isMade && p'.isMade then 1 else 0 := by
  cases hp : p.isMade <;> simp [invalidations, hp, h]

theorem Part.invalidations_le {α : Type} (p : Part α) : p.invalidations ≤ 1 := by
  unfold invalidations
  split <;> decide

theorem Step.counted {c : Option Cell} {m n : Machine} (h : Step c m n) :
    Counted c.toList m n := by
  cases h with
  | widenValue _ i k =>
    refine .update (c := .value i) rfl ?_ (Kind.noWider_widen _ k) ?_
    · rintro (_ | _ | _ | _) rfl hne <;> first | rfl | exact absurd rfl hne
    · exact congrArg (m.epoch + ·) (Kind.invalidations_eq _ k)
  | widenIndex _ i k =>
    refine .update (c := .index i) rfl ?_ (Kind.noWider_widen _ k) ?_
    · rintro (_ | _ | _ | _) rfl hne <;> first | rfl | exact absurd rfl hne
    · exact congrArg (m.epoch + ·) (Kind.invalidations_eq _ k)
  | publishTargetCheck _ i =>
    refine .update (c := .targetCheck i) rfl ?_ (fun _ => rfl) ?_
    · rintro (_ | _ | _ | _) rfl hne <;> first | rfl | exact absurd rfl hne
    · exact congrArg (m.epoch + ·) (Part.invalidations_eq _ rfl)
  | publishConversion _ i v =>
    refine .update (c := .conversion i) rfl ?_ ?_ ?_
    · rintro (_ | _ | _ | _) rfl hne <;> first | rfl | exact absurd rfl hne
    · intro seen (hs : (m.profile.get i).conversion.made? = some seen)
      refine ⟨_, rfl, ?_⟩
      rw [Part.getD, hs]
      exact seen.le_see v
    · exact congrArg (m.epoch + ·) (Part.invalidations_eq _ rfl)
  | _ => exact .of_eq rfl rfl

theorem Trail.counted {cs : List Cell} {m n : Machine} (h : Trail cs m n) (hcs : cs.Nodup) :
    Counted cs m n := by
  induction h with
  | refl m => exact .of_eq rfl rfl
  | step hs _ ih =>
    obtain ⟨-, hnodup, hd⟩ := List.nodup_append'.1 hcs
    exact hs.counted.append (ih hnodup) hd

/-! ## Executions -/

/-- What a tree keeps between executions: its observations, and the epoch that they have led to. -/
structure Learnt where
  profile : Profile
  epoch : Nat

namespace Learnt

/-- All cells grow. -/
def Grows (s s' : Learnt) : Prop :=
  ∀ c, (s.profile.observed c).Grows (s'.profile.observed c)

/-- The cells of a set that were invalidated. -/
def invalidated (S : Finset Cell) (s s' : Learnt) : Finset Cell :=
  S.filter fun c => (s.profile.observed c).invalidated (s'.profile.observed c)

/-- How many invalidations of cells of a set can still come. -/
def left (S : Finset Cell) (s : Learnt) : Nat :=
  ∑ c ∈ S, (s.profile.observed c).left

theorem left_singleton (s : Learnt) (c : Cell) : s.left {c} = (s.profile.observed c).left :=
  Finset.sum_singleton _ c

theorem left_union_le (s : Learnt) {S T : Finset Cell} {a b : Nat} (hS : s.left S ≤ a)
    (hT : s.left T ≤ b) : s.left (S ∪ T) ≤ a + b := by
  have h : s.left (S ∪ T) + s.left (S ∩ T) = s.left S + s.left T := Finset.sum_union_inter
  omega

theorem left_add_card_invalidated (S : Finset Cell) {s s' : Learnt} (h : s.Grows s') :
    s'.left S + (invalidated S s s').card ≤ s.left S := by
  rw [left, left, invalidated, Finset.card_filter, ← Finset.sum_add_distrib]
  exact Finset.sum_le_sum fun c _ => Observation.left_add_invalidated (h c)

end Learnt

/-- All that an execution depends on apart from what the tree has learnt before. -/
structure Activation where
  env : Env
  channel : Channel
  heap : Heap
  frame : Frame
  trace : List Event
  formats : Nat

/-- The machine on which an execution starts. -/
def Activation.start (a : Activation) (s : Learnt) : Machine :=
  { heap := a.heap, frame := a.frame, profile := s.profile, epoch := s.epoch, trace := a.trace,
    formats := a.formats }

namespace Node

/-- What the tree has learnt after one more execution, whether that gives a value or fails. -/
def execute (t : Node) (base : Nat) (s : Learnt) (a : Activation) : Learnt :=
  let m := ((t.runner a.env base).value a.channel (a.start s)).2
  ⟨m.profile, m.epoch⟩

/-- What the tree has learnt after executions one after the other. -/
def executeAll (t : Node) (base : Nat) (s : Learnt) (as : List Activation) : Learnt :=
  as.foldl (t.execute base) s

end Node

theorem Runner.Within.value {S : Finset Cell} {r : Runner} (h : r.Within S) (c : Channel) :
    Exec.Within S (fun _ => True) (r.value c) := by
  cases c with
  | generic => exact h.generic
  | int => exact h.int.map _
  | double => exact h.double.map _

namespace Node

variable (t : Node) (base : Nat)

/-- Each cell is updated at most once, so the cells that differ tell the growth of the epoch. -/
theorem execute_counted (s : Learnt) (a : Activation) :
    (∀ c ∉ t.cells base,
        (t.execute base s a).profile.observed c = s.profile.observed c) ∧
      s.Grows (t.execute base s a) ∧
      (t.execute base s a).epoch =
        s.epoch + (Learnt.invalidated (t.cells base) s (t.execute base s a)).card := by
  obtain ⟨⟨cs, htrail, hnodup, hmem⟩, -⟩ :=
    ((t.runner_within a.env base).value a.channel) (a.start s)
  have hcounted := htrail.counted hnodup
  have hsame : Learnt.invalidated (t.cells base) s (t.execute base s a) =
      (cs.filter fun c => (s.profile.observed c).invalidated
        ((t.execute base s a).profile.observed c)).toFinset := by
    ext c
    simp only [Learnt.invalidated, Finset.mem_filter, List.mem_toFinset, List.mem_filter]
    refine ⟨fun ⟨_, hinv⟩ => ⟨?_, hinv⟩, fun ⟨hc, hinv⟩ => ⟨hmem c hc, hinv⟩⟩
    by_contra hc
    rw [show (t.execute base s a).profile.observed c = s.profile.observed c from
      hcounted.outside c hc, Observation.invalidated_self] at hinv
    cases hinv
  refine ⟨fun c hc => hcounted.outside c fun hc' => hc (hmem c hc'), hcounted.grows, ?_⟩
  rw [hsame, List.toFinset_card_of_nodup (hnodup.filter _), ← List.countP_eq_length_filter]
  exact hcounted.epoch

/-- However often a tree is executed, its cells pay for the growth of the epoch. -/
theorem executeAll_counted (s : Learnt) (as : List Activation) :
    s.Grows (t.executeAll base s as) ∧
      (t.executeAll base s as).left (t.cells base) + (t.executeAll base s as).epoch ≤
        s.left (t.cells base) + s.epoch := by
  induction as generalizing s with
  | nil => exact ⟨fun _ => .refl _, Nat.le_refl _⟩
  | cons a as ih =>
    obtain ⟨-, hgrows, hepoch⟩ := t.execute_counted base s a
    obtain ⟨hgrows', hpaid⟩ := ih (t.execute base s a)
    have hstep := Learnt.left_add_card_invalidated (t.cells base) hgrows
    refine ⟨fun c => (hgrows c).trans (hgrows' c), ?_⟩
    show _ + (t.executeAll base (t.execute base s a) as).epoch ≤ _
    exact hpaid.trans (by omega)

/-! ## The bound -/

/-- Whether the node is arithmetic. -/
def isBinary : Node → Bool
  | .binary .. => true
  | _ => false

/-- Whether the node is a plain element write. -/
def isWriteElement : Node → Bool
  | .writeElement .. => true
  | _ => false

/-- Whether the node is a compound element write. -/
def isCompound : Node → Bool
  | .compound .. => true
  | _ => false

/-- The most invalidations that nodes can take: two for each kind that they observe, of which an
element write has two, and one for each of the two parts of a compound write. -/
def maxInvalidations (ns : List Node) : Nat :=
  2 * (ns.countP isBinary + 2 * ns.countP isWriteElement + 2 * ns.countP isCompound) +
    2 * ns.countP isCompound

theorem maxInvalidations_append (ns ns' : List Node) :
    maxInvalidations (ns ++ ns') = maxInvalidations ns + maxInvalidations ns' := by
  simp only [maxInvalidations, List.countP_append]
  omega

theorem maxInvalidations_cons (n : Node) (ns : List Node) :
    maxInvalidations (n :: ns) = maxInvalidations [n] + maxInvalidations ns :=
  maxInvalidations_append [n] ns

section

variable (s : Learnt)

theorem left_value (i : Nat) : s.left {.value i} ≤ 2 := by
  rw [Learnt.left_singleton]
  exact Observation.left_kind_le _

theorem left_kinds (i : Nat) : s.left {.value i, .index i} ≤ 4 := by
  rw [Finset.insert_eq]
  refine s.left_union_le (b := 2) (left_value s i) ?_
  rw [Learnt.left_singleton]
  exact Observation.left_kind_le _

theorem left_parts (i : Nat) : s.left {.targetCheck i, .conversion i} ≤ 2 := by
  rw [Finset.insert_eq]
  refine s.left_union_le (a := 1) (b := 1) ?_ ?_
  · rw [Learnt.left_singleton]
    exact Part.invalidations_le _
  · rw [Learnt.left_singleton]
    exact Part.invalidations_le _

mutual

theorem left_cells_le : ∀ (t : Node) (base : Nat),
    s.left (t.cells base) ≤ maxInvalidations t.preorder
  | .const .., _ | .read .., _ | .patternLiteral .., _ => by simp [cells, Learnt.left]
  | .write _ _ v, base => by
    simp only [cells, preorder]
    rw [maxInvalidations_cons]
    exact (left_cells_le v base).trans (Nat.le_add_left _ _)
  | .binary _ _ l r, base => by
    simp only [cells, preorder]
    rw [maxInvalidations_cons, maxInvalidations_append]
    exact s.left_union_le (left_value s base)
      (s.left_union_le (left_cells_le l _) (left_cells_le r _))
  | .readElement _ t i, base => by
    simp only [cells, preorder]
    rw [maxInvalidations_cons, maxInvalidations_append]
    exact (s.left_union_le (left_cells_le t _) (left_cells_le i _)).trans (Nat.le_add_left _ _)
  | .writeElement _ _ t i v, base => by
    simp only [cells, preorder]
    rw [maxInvalidations_cons, List.append_assoc, maxInvalidations_append, maxInvalidations_append]
    exact s.left_union_le (left_kinds s base) (s.left_union_le (left_cells_le t _)
      (s.left_union_le (left_cells_le i _) (left_cells_le v _)))
  | .compound _ _ _ t i v, base => by
    simp only [cells, preorder]
    rw [maxInvalidations_cons, List.append_assoc, maxInvalidations_append, maxInvalidations_append]
    have hown : s.left {.value base, .index base, .targetCheck base, .conversion base} ≤ 6 :=
      s.left_union_le (left_kinds s base) (left_parts s base)
    exact s.left_union_le hown (s.left_union_le (left_cells_le t _)
      (s.left_union_le (left_cells_le i _) (left_cells_le v _)))
  | .tagged _ c, base => by
    simp only [cells, preorder]
    rw [maxInvalidations_cons]
    exact (left_cells_le c base).trans (Nat.le_add_left _ _)
  | .sequence _ ns, base => by
    simp only [cells, preorder]
    rw [maxInvalidations_cons]
    exact (left_cellsAll_le ns base).trans (Nat.le_add_left _ _)
  | .patternExec _ p u a, base => by
    simp only [cells, preorder]
    rw [maxInvalidations_cons, List.append_assoc, maxInvalidations_append, maxInvalidations_append]
    exact (s.left_union_le (left_cells_le p _) (s.left_union_le (left_cells_le u _)
      (left_cells_le a _))).trans (Nat.le_add_left _ _)
  | .listFormat _ l o, base => by
    simp only [cells, preorder]
    rw [maxInvalidations_cons, maxInvalidations_append]
    exact (s.left_union_le (left_cells_le l _) (left_cells_le o _)).trans (Nat.le_add_left _ _)

theorem left_cellsAll_le : ∀ (ns : List Node) (base : Nat),
    s.left (cellsAll ns base) ≤ maxInvalidations (preorderAll ns)
  | [], _ => by simp [cellsAll, Learnt.left]
  | n :: ns, base => by
    simp only [cellsAll, preorderAll]
    rw [maxInvalidations_append]
    exact s.left_union_le (left_cells_le n _) (left_cellsAll_le ns _)

end

end

/-- Respecialization is monotone, counted and bounded. An execution changes what the cells of the
tree hold and no others, lets them grow only, and raises the epoch by exactly the number of them
that it invalidates; executions one after the other, whatever they are given, let the cells grow
only, and raise the epoch by no more than the nodes of the tree can take. -/
theorem respecialization :
    (∀ (s : Learnt) (a : Activation),
      (∀ c ∉ t.cells base, (t.execute base s a).profile.observed c = s.profile.observed c) ∧
      s.Grows (t.execute base s a) ∧
      (t.execute base s a).epoch =
        s.epoch + (Learnt.invalidated (t.cells base) s (t.execute base s a)).card) ∧
    ∀ (s : Learnt) (as : List Activation),
      s.Grows (t.executeAll base s as) ∧
      (t.executeAll base s as).epoch ≤ s.epoch + maxInvalidations t.preorder := by
  refine ⟨t.execute_counted base, fun s as => ?_⟩
  obtain ⟨hgrows, hpaid⟩ := t.executeAll_counted base s as
  have hleft := left_cells_le s t base
  exact ⟨hgrows, by omega⟩

/-- The bound is reached: a sum that meets integers first, then a double and then a text takes both
of its invalidations. -/
example :
    let sum := Node.binary {} .add (.read {} 0) (.const {} (.int 1))
    let run (c : Channel) (v : Value) : Activation :=
      ⟨⟨true, false, ⟨"en", []⟩⟩, c, .empty, .ofArgs 1 [v], [], 0⟩
    (sum.executeAll 0 ⟨.empty, 0⟩
        [run .int (.int 1), run .double (.double 0.5), run .generic (.string "a")]).epoch =
      maxInvalidations sum.preorder := by
  rfl

end Node

end AdaptiveTree
