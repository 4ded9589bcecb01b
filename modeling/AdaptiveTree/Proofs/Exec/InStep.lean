import AdaptiveTree.Proofs.Exec.Lockstep

/-!
# Trees run in step

A tree runs in step with itself (`Node.runner_inStep`) if it uses the slots that keep indices for
indices only (`Node.indexOnly`). There is one lemma for each kind of node (`Runner.InStep.binary`,
`Runner.InStep.compound` and so on) about arbitrary runners of its children, and the theorem is by
induction on the tree. The results of a tree are the same in both runs, or stand for the same index
if it is an index and may read such a slot.
-/

set_option autoImplicit false

namespace AdaptiveTree

open Exec

/-! ## Indices -/

namespace Write.IndexValue

/-- The index that the integer channel gave. -/
def ofInt : Speculated Int32 → IndexValue
  | .exact i => .int i
  | .unexpected v => .generic v

theorem value_ofInt (a : Speculated Int32) : (ofInt a).value = a.intValue := by
  cases a <;> rfl

/-- The form in which an index with the given key is kept. -/
def form (k : Key) : IndexValue → Value
  | .int i => .int i
  | .generic _ => k.toValue

/-- In whatever form it is kept, an index stands for itself. -/
theorem form_sameIndex (h : Heap) (a : IndexValue) :
    SameIndex (a.form (h.key a.value)) (h.key a.value).toValue := by
  cases a with
  | int i => exact (Key.indexForm_toValue_ofInt i).symm
  | generic v => exact rfl

theorem isPlain_form (k : Key) (a : IndexValue) : (a.form k).isPlain = true := by
  cases a with
  | int i => rfl
  | generic v => exact k.isPlain_toValue

end Write.IndexValue

namespace Lockstep

open Write

variable {c : Scope} {a b : IndexValue}

/-- Two indices may be kept in the slot, if there is one: it may be written, and unless it may have
two forms, theirs is the same. -/
def Keepable (c : Scope) (cache : Option Nat) (a b : IndexValue) : Prop :=
  ∀ s, cache = some s → s ∈ c.assigned ∧
    (s ∉ c.kept → ∀ h : Heap, a.form (h.key a.value) = b.form (h.key b.value))

/-- Indices with the same key are kept in forms that stand for it. -/
theorem keepForm {cache : Option Nat} (hcache : Keepable c cache a b)
    (hab : SameIndex a.value b.value) :
    Lockstep c ∅ Eq (do let k ← Exec.key a.value; keepIndex cache (a.form k); return k)
      (do let k ← Exec.key b.value; keepIndex cache (b.form k); return k) := by
  have hkey : Lockstep c ∅ (fun k k' => k = k' ∧ ∃ h : Heap, k = h.key a.value ∧ k = h.key b.value)
      (Exec.key a.value) (Exec.key b.value) := by
    refine .read fun m n hmn => ?_
    have h : m.heap.key a.value = m.heap.key b.value := Heap.key_congr rfl hab
    rw [← hmn.twins.heap]
    exact ⟨h, m.heap, rfl, h⟩
  refine hkey.skip ?_
  rintro k _ ⟨rfl, h, hka, hkb⟩
  cases cache with
  | none => exact .pure rfl
  | some s =>
    obtain ⟨hassigned, hform⟩ := hcache s rfl
    refine Lockstep.skip (.setLocal hassigned (.of_plain (a.isPlain_form k)) ?_ ?_)
      fun _ _ _ => .pure rfl
    · have ha := a.form_sameIndex h
      have hb := b.form_sameIndex h
      rw [← hka] at ha
      rw [← hkb] at hb
      exact ha.trans hb.symm
    · intro hs
      have hab := hform hs h
      rwa [← hka, ← hkb] at hab

/-- An index is converted by code of its own on each channel. -/
theorem convert {cache : Option Nat} (hcache : Keepable c cache a b)
    (hab : SameIndex a.value b.value) (w : Parts) :
    Lockstep c ∅ Eq
      (match a with
        | .int i => convertInt cache i
        | .generic v => convertIndex w cache v)
      (match b with
        | .int i => convertInt cache i
        | .generic v => convertIndex w cache v) := by
  have hkeep := keepForm hcache hab
  cases a with
  | int i =>
    cases b with
    | int j => exact hkeep
    | generic v => exact hkeep.publishRight w.site v
  | generic u =>
    cases b with
    | int j => exact hkeep.publishLeft w.site u
    | generic v => exact (hkeep.publishLeft w.site u).publishRight w.site v

end Lockstep

/-! ## Nodes -/

/-- On each channel the runner stays in step with itself; its results are compared as indices if
`asIndex` is true. -/
structure Runner.InStep (c : Scope) (I : Finset Cell) (asIndex : Bool) (x : Runner) : Prop where
  generic : Lockstep c I (AgreeAs c asIndex id) x.generic x.generic
  int : Lockstep c I (AgreeAs c asIndex Speculated.intValue) x.int x.int
  double : Lockstep c I (AgreeAs c asIndex Speculated.doubleValue) x.double x.double

namespace Runner.InStep

variable {c : Scope} {I J : Finset Cell} {asIndex : Bool} {x : Runner}

theorem subset (h : x.InStep c I asIndex) (hIJ : I ⊆ J) : x.InStep c J asIndex :=
  ⟨h.generic.subset hIJ, h.int.subset hIJ, h.double.subset hIJ⟩

theorem of_eq (h : x.InStep c I false) (asIndex : Bool) : x.InStep c I asIndex :=
  ⟨h.generic.mono fun _ _ h => h.of_eq _, h.int.mono fun _ _ h => h.of_eq _,
    h.double.mono fun _ _ h => h.of_eq _⟩

theorem inside_ofDoubleValue {v : Value} (h : c.Inside v) :
    c.Inside (Speculated.ofDoubleValue v).doubleValue := by
  cases v with
  | int i => exact .of_plain rfl
  | _ => exact h

theorem ofGeneric {x : Exec Value} (h : Lockstep c I (AgreeAs c asIndex id) x x) :
    (Runner.ofGeneric x).InStep c I asIndex where
  generic := h
  int := h.map fun _ _ hvw => hvw.map _ Speculated.intValue_ofIntValue
  double := h.map fun v w hvw => by
    cases asIndex with
    | true =>
      show SameIndex _ _
      rw [SameIndex, ← Value.indexForm_canon, Speculated.canon_ofDoubleValue,
        ← Value.indexForm_canon (Speculated.doubleValue _), Speculated.canon_ofDoubleValue,
        Value.indexForm_canon, Value.indexForm_canon]
      exact hvw
    | false =>
      obtain ⟨rfl, hv⟩ := hvw
      exact ⟨rfl, inside_ofDoubleValue hv⟩

theorem const {v : Value} (hv : c.Inside v) :
    (Runner.ofGeneric (return v)).InStep c ∅ false :=
  ofGeneric (.pure ⟨rfl, hv⟩)

theorem write (h : x.InStep c I false) {slot : Nat} (hslot : slot ∈ c.assigned) :
    (Runner.write slot x).InStep c I false := by
  -- the value is stored, and it is the result as well
  have hstore : ∀ {α : Type} {value : α → Value} {a b : α}, AgreeAs c false value a b →
      Lockstep c ∅ (AgreeAs c false value) (do Exec.setLocal slot (value a); return a)
        (do Exec.setLocal slot (value b); return b) := by
    rintro α value a _ ⟨rfl, ha⟩
    exact (Lockstep.setLocal hslot ha rfl fun _ => rfl).skip fun _ _ _ => .pure ⟨rfl, ha⟩
  exact ⟨h.generic.andThen fun _ _ hab => hstore hab, h.int.andThen fun _ _ hab => hstore hab,
    h.double.andThen fun _ _ hab => hstore hab⟩

theorem tagged (h : x.InStep c I asIndex) (env : Env) (about : Meta) :
    (Runner.tagged env about x).InStep c I asIndex := by
  unfold Runner.tagged
  split
  · exact ⟨h.generic.reporting _ _, h.int.reporting _ _, h.double.reporting _ _⟩
  · exact h

theorem sequence_nil : (Runner.sequence []).InStep c ∅ false :=
  ⟨.pure ⟨rfl, .of_plain rfl⟩, .pure ⟨rfl, .of_plain rfl⟩, .pure ⟨rfl, .of_plain rfl⟩⟩

theorem sequence_cons {xs : List Runner} (h : x.InStep c I false)
    (hxs : (Runner.sequence xs).InStep c J false) (hd : Disjoint I J) :
    (Runner.sequence (x :: xs)).InStep c (I ∪ J) false := by
  cases xs with
  | nil => exact h.subset Finset.subset_union_left
  | cons y ys =>
    exact ⟨h.generic.bind (fun _ _ _ => hxs.generic) hd,
      h.generic.bind (fun _ _ _ => hxs.int) hd, h.generic.bind (fun _ _ _ => hxs.double) hd⟩

/-! ### Arithmetic and reading -/

section

variable {site : Nat} {l r : Runner}

/-- Both operands run before the site learns. -/
theorem operands {α β γ : Type} {x : Exec α} {y : Exec β} {f : α → β → Exec γ}
    {V : α → α → Prop} {V' : β → β → Prop} {W : γ → γ → Prop} (hx : Lockstep c I V x x)
    (hy : Lockstep c J V' y y)
    (hf : ∀ a a' b b', V a a' → V' b b' → Lockstep c {.value site} W (f a b) (f a' b'))
    (hd : Disjoint I J) (hI : Apart site I) (hJ : Apart site J) :
    Lockstep c ({.value site} ∪ (I ∪ J)) W (do f (← x) (← y)) (do f (← x) (← y)) := by
  have hyf : ∀ a a', V a a' → Lockstep c (J ∪ {.value site}) W (y >>= f a) (y >>= f a') :=
    fun a a' ha => hy.bind (fun b b' hb => hf a a' b b' ha hb)
      (Apart.disjoint_singleton (c := .value site) hJ)
  have hdI : Disjoint I (J ∪ {.value site}) :=
    Finset.disjoint_union_right.2 ⟨hd, Apart.disjoint_singleton (c := .value site) hI⟩
  refine (hx.bind hyf hdI).subset ?_
  grind

/-- The site learns, and the result stays. -/
theorem widened {γ : Type} {W : γ → γ → Prop} {k : Kind} {a : γ} (ha : W a a) :
    Lockstep c {.value site} W (do Exec.widenValue site k; return a)
      (do Exec.widenValue site k; return a) :=
  (Lockstep.widenValue site _ _).andThen fun _ _ _ => .pure ha

theorem settleInt {v : Value} (hv : c.Inside v) :
    Lockstep c {.value site} (AgreeAs c false Speculated.intValue) (Binary.settleInt site v)
      (Binary.settleInt site v) :=
  widened ⟨rfl, by rwa [Speculated.intValue_ofIntValue]⟩

variable (op : Op) (hl : l.InStep c I false) (hr : r.InStep c J false) (hd : Disjoint I J)
  (hI : Apart site I) (hJ : Apart site J)
include hl hr hd hI hJ

theorem runGeneric : Lockstep c ({.value site} ∪ (I ∪ J)) (AgreeAs c false id)
    (Binary.runGeneric op site l r) (Binary.runGeneric op site l r) := by
  refine operands hl.generic hr.generic ?_ hd hI hJ
  rintro a _ b _ ⟨rfl, -⟩ ⟨rfl, -⟩
  refine (Lockstep.apply op a b).skip ?_
  rintro v _ ⟨rfl, hv⟩
  exact widened ⟨rfl, hv⟩

theorem runInt : Lockstep c ({.value site} ∪ (I ∪ J)) (AgreeAs c false Speculated.intValue)
    (Binary.runInt op site l r) (Binary.runInt op site l r) := by
  refine operands hl.int hr.int ?_ hd hI hJ
  rintro a _ b _ ⟨rfl, -⟩ ⟨rfl, -⟩
  split
  · split
    · exact widened ⟨rfl, .of_plain rfl⟩
    · exact settleInt (.of_plain (Value.isPlain_number _))
  · refine (Lockstep.apply op _ _).skip ?_
    rintro v _ ⟨rfl, hv⟩
    exact settleInt hv

theorem runDouble : Lockstep c ({.value site} ∪ (I ∪ J)) (AgreeAs c false Speculated.doubleValue)
    (Binary.runDouble op site l r) (Binary.runDouble op site l r) := by
  refine operands hl.double hr.double ?_ hd hI hJ
  rintro a _ b _ ⟨rfl, -⟩ ⟨rfl, -⟩
  split
  · exact widened ⟨rfl, .of_plain rfl⟩
  · refine (Lockstep.apply op _ _).skip ?_
    rintro v _ ⟨rfl, hv⟩
    exact widened ⟨rfl, inside_ofDoubleValue hv⟩

theorem binary (env : Env) :
    (Binary.runner op site l r env).InStep c ({.value site} ∪ (I ∪ J)) false := by
  have hgeneric := runGeneric op hl hr hd hI hJ
  have hint := runInt op hl hr hd hI hJ
  have hdouble := runDouble op hl hr hd hI hJ
  refine ⟨?_, hint, hdouble⟩
  show Lockstep c _ _ (Binary.runObserved op site l r env) (Binary.runObserved op site l r env)
  unfold Binary.runObserved
  split
  · exact hgeneric
  · refine .siteValue (Finset.mem_union_left _ (Finset.mem_singleton_self _)) fun s s' hs => ?_
    rw [hs]
    split
    · exact hint.map fun _ _ h => h.map _ fun _ => rfl
    · exact hint.map fun _ _ h => h.map _ fun _ => rfl
    · exact hdouble.map fun _ _ h => h.map _ fun _ => rfl
    · exact hgeneric

end

theorem readElement {t i : Runner} (ht : t.InStep c I false) (hi : i.InStep c J true)
    (hd : Disjoint I J) : (Element.readRunner t i).InStep c (I ∪ J) false := by
  refine ofGeneric (ht.generic.bind ?_ hd)
  rintro u _ ⟨rfl, hu⟩
  refine hi.generic.andThen fun v w hvw => (Lockstep.key hvw).skip ?_
  rintro k _ rfl
  exact .runRead hu k

/-! ### Element writes -/

section

variable {T V : Finset Cell} {env : Env} {flags : StoreFlags} {site : Nat} {t i v : Runner}

/-- An index is evaluated on the same channel in both runs. Its kind may be learnt differently. -/
theorem runIndex (hi : i.InStep c I asIndex) (hI : Apart site I) :
    Lockstep c (I ∪ {.index site}) (AgreeAs c asIndex Write.IndexValue.value)
      (Write.runIndex env ⟨flags, site, i, v⟩) (Write.runIndex env ⟨flags, site, i, v⟩) := by
  have hd : Disjoint I {.index site} := Apart.disjoint_singleton (c := .index site) hI
  have hwiden : ∀ {k k' : Kind} {a b : Write.IndexValue},
      AgreeAs c asIndex Write.IndexValue.value a b →
      Lockstep c {.index site} (AgreeAs c asIndex Write.IndexValue.value)
        (do Exec.widenIndex site k; return a) (do Exec.widenIndex site k'; return b) := fun hab =>
    (Lockstep.widenIndex site _ _).andThen fun _ _ _ => .pure hab
  refine .siteIndex (Finset.mem_union_right _ (Finset.mem_singleton_self _)) fun s s' hs => ?_
  rw [hs]
  split
  · refine hi.int.bind (fun a b hab => ?_) hd
    have hindex := hab.map _ Write.IndexValue.value_ofInt
    cases a <;> cases b <;> exact hwiden hindex
  · exact hi.generic.bind (fun a b hab => hwiden (hab.map _ fun _ => rfl)) hd

/-- What is learnt before the value is evaluated, and from then on. -/
theorem disjoint_value (hT : Apart site T) (hI : Apart site I) (hV : Apart site V)
    (hTV : Disjoint T V) (hIV : Disjoint I V) :
    Disjoint (T ∪ (I ∪ {.index site})) (V ∪ {.value site}) := by
  rw [Finset.disjoint_left] at *
  grind [Apart, Cell.site]

/-- The same target within reach, and the same key. -/
def SamePlaceInside (c : Scope) (p q : Value × Key) : Prop :=
  p = q ∧ c.Inside p.1

/-- The channels store alike under one target and key. -/
theorem storeGeneric (hv : v.InStep c V false) (hV : Apart site V) {u : Value} (hu : c.Inside u)
    (k : Key) :
    Lockstep c (V ∪ {.value site}) (AgreeAs c false id) (Write.storeGeneric ⟨flags, site, i, v⟩ u k)
      (Write.storeGeneric ⟨flags, site, i, v⟩ u k) := by
  refine hv.generic.bind ?_ (Apart.disjoint_singleton (c := .value site) hV)
  rintro a _ ⟨rfl, ha⟩
  exact (Lockstep.widenValue site _ _).andThen fun _ _ _ => .runStore flags hu k ha

theorem storeInt (hv : v.InStep c V false) (hV : Apart site V) {u : Value} (hu : c.Inside u)
    (k : Key) :
    Lockstep c (V ∪ {.value site}) (AgreeAs c false Speculated.intValue)
      (Write.storeInt ⟨flags, site, i, v⟩ u k) (Write.storeInt ⟨flags, site, i, v⟩ u k) := by
  refine hv.int.bind ?_ (Apart.disjoint_singleton (c := .value site) hV)
  rintro a _ ⟨rfl, ha⟩
  cases a with
  | exact j =>
    refine (Lockstep.widenValue site _ _).andThen fun _ _ _ => ?_
    exact (Lockstep.runStore flags hu k (.of_plain rfl)).map fun _ _ _ => ⟨rfl, .of_plain rfl⟩
  | unexpected w =>
    refine (Lockstep.widenValue site _ _).andThen fun _ _ _ => ?_
    exact (Lockstep.runStore flags hu k ha).map fun _ _ h => h.map _ Speculated.intValue_ofIntValue

theorem storeDouble (hv : v.InStep c V false) (hV : Apart site V) {u : Value} (hu : c.Inside u)
    (k : Key) :
    Lockstep c (V ∪ {.value site}) (AgreeAs c false Speculated.doubleValue)
      (Write.storeDouble ⟨flags, site, i, v⟩ u k) (Write.storeDouble ⟨flags, site, i, v⟩ u k) := by
  refine hv.double.bind ?_ (Apart.disjoint_singleton (c := .value site) hV)
  rintro a _ ⟨rfl, ha⟩
  cases a with
  | exact d =>
    refine (Lockstep.widenValue site _ _).andThen fun _ _ _ => ?_
    exact (Lockstep.runStore flags hu k (.of_plain rfl)).map fun _ _ _ => ⟨rfl, .of_plain rfl⟩
  | unexpected w =>
    refine (Lockstep.widenValue site _ _).andThen fun _ _ _ => ?_
    refine (Lockstep.runStore flags hu k ha).map ?_
    rintro stored _ ⟨rfl, hstored⟩
    exact ⟨rfl, inside_ofDoubleValue hstored⟩

/-- The three ways to store, under a target and key that are found alike. -/
theorem runnerAfter (hv : v.InStep c V false) (hV : Apart site V) {place : Exec (Value × Key)}
    (hp : Lockstep c I (SamePlaceInside c) place place) (hd : Disjoint I (V ∪ {.value site})) :
    (Write.runnerAfter env ⟨flags, site, i, v⟩ place).InStep c (I ∪ (V ∪ {.value site})) false := by
  constructor
  case generic =>
    refine hp.bind ?_ hd
    rintro ⟨u, k⟩ _ ⟨rfl, hu⟩
    show Lockstep c _ _ (Write.storeObserved env ⟨flags, site, i, v⟩ u k)
      (Write.storeObserved env ⟨flags, site, i, v⟩ u k)
    unfold Write.storeObserved
    split
    · exact storeGeneric hv hV hu k
    · refine .siteValue (Finset.mem_union_right _ (Finset.mem_singleton_self _)) fun s s' hs => ?_
      rw [hs]
      split
      · exact (storeInt hv hV hu k).map fun _ _ h => h.map _ fun _ => rfl
      · exact (storeInt hv hV hu k).map fun _ _ h => h.map _ fun _ => rfl
      · exact (storeDouble hv hV hu k).map fun _ _ h => h.map _ fun _ => rfl
      · exact storeGeneric hv hV hu k
  case int =>
    refine hp.bind ?_ hd
    rintro ⟨u, k⟩ _ ⟨rfl, hu⟩
    exact storeInt hv hV hu k
  case double =>
    refine hp.bind ?_ hd
    rintro ⟨u, k⟩ _ ⟨rfl, hu⟩
    exact storeDouble hv hV hu k

theorem writeElement (ht : t.InStep c T false) (hi : i.InStep c I true) (hv : v.InStep c V false)
    (hT : Apart site T) (hI : Apart site I) (hV : Apart site V) (hTI : Disjoint T I)
    (hTV : Disjoint T V) (hIV : Disjoint I V) :
    (Write.runner env ⟨flags, site, i, v⟩ t).InStep c
      ({.value site, .index site} ∪ (T ∪ (I ∪ V))) false := by
  have hkey : Lockstep c (I ∪ {.index site}) Eq (Write.runKey env ⟨flags, site, i, v⟩)
      (Write.runKey env ⟨flags, site, i, v⟩) := by
    refine (runIndex hi hI).andThen fun a b hab => ?_
    have hsame := Lockstep.key (c := c) hab.sameIndex
    cases a <;> cases b <;> exact hsame
  have hdT : Disjoint T (I ∪ {.index site}) :=
    Finset.disjoint_union_right.2 ⟨hTI, Apart.disjoint_singleton (c := .index site) hT⟩
  have hplace : Lockstep c (T ∪ (I ∪ {.index site})) (SamePlaceInside c)
      (Write.place env ⟨flags, site, i, v⟩ t) (Write.place env ⟨flags, site, i, v⟩ t) := by
    refine ht.generic.bind ?_ hdT
    rintro u _ ⟨rfl, hu⟩
    refine hkey.andThen ?_
    rintro k _ rfl
    exact .pure ⟨rfl, hu⟩
  refine (runnerAfter hv hV hplace (disjoint_value hT hI hV hTV hIV)).subset ?_
  grind

theorem compound {cache : Option Nat}
    (hcache : ∀ s, cache = some s → s ∈ c.assigned ∧ (asIndex = true → s ∈ c.kept))
    (ht : t.InStep c T false) (hi : i.InStep c I asIndex) (hv : v.InStep c V false)
    (hT : Apart site T) (hI : Apart site I) (hV : Apart site V) (hTI : Disjoint T I)
    (hTV : Disjoint T V) (hIV : Disjoint I V) :
    (Write.compoundRunner env ⟨flags, site, i, v⟩ cache t).InStep c
      ({.value site, .index site, .targetCheck site, .conversion site} ∪ (T ∪ (I ∪ V))) false := by
  have hdT : Disjoint T (I ∪ {.index site}) :=
    Finset.disjoint_union_right.2 ⟨hTI, Apart.disjoint_singleton (c := .index site) hT⟩
  have hplace : Lockstep c (T ∪ (I ∪ {.index site})) (SamePlaceInside c)
      (Write.compoundPlace env ⟨flags, site, i, v⟩ cache t)
      (Write.compoundPlace env ⟨flags, site, i, v⟩ cache t) := by
    refine ht.generic.bind ?_ hdT
    rintro u _ ⟨rfl, hu⟩
    refine (Lockstep.runCheck _ u).skip fun _ _ _ => (runIndex hi hI).andThen fun a b hab => ?_
    have hfound : ∀ {x y : Exec Key}, Lockstep c ∅ Eq x y →
        Lockstep c ∅ (SamePlaceInside c) (do let k ← x; return (u, k))
          (do let k ← y; return (u, k)) := fun h =>
      h.map fun k k' hk => ⟨by rw [hk], hu⟩
    have hkeep : Lockstep.Keepable c cache a b := by
      refine fun s hs => ⟨(hcache s hs).1, fun hkept h => ?_⟩
      cases asIndex with
      | false => rw [hab.1]
      | true => exact absurd ((hcache s hs).2 rfl) hkept
    have hconvert := hfound (Lockstep.convert hkeep hab.sameIndex ⟨flags, site, i, v⟩)
    cases a <;> cases b <;> exact hconvert
  refine (runnerAfter hv hV hplace (disjoint_value hT hI hV hTV hIV)).subset ?_
  grind

end

/-! ### Pattern matches and list formats -/

theorem patternExec {K : Finset Cell} {p s a : Runner} (hp : p.InStep c I false)
    (hs : s.InStep c J false) (ha : a.InStep c K false) (hIJ : Disjoint I J) (hIK : Disjoint I K)
    (hJK : Disjoint J K) : (Match.runner p s a).InStep c (I ∪ (J ∪ K)) false := by
  refine ofGeneric (hp.generic.bind ?_ (Finset.disjoint_union_right.2 ⟨hIJ, hIK⟩))
  rintro v _ ⟨rfl, -⟩
  refine (Lockstep.patternOf v).skip ?_
  rintro pattern _ rfl
  refine hs.generic.bind ?_ hJK
  rintro w _ ⟨rfl, -⟩
  refine (Lockstep.display w).skip ?_
  rintro text _ rfl
  refine ha.generic.andThen ?_
  rintro position _ ⟨rfl, -⟩
  split
  · exact .pure ⟨rfl, .of_plain rfl⟩
  · refine (Lockstep.result text _).skip ?_
    rintro o _ ⟨rfl, ho⟩
    exact .allocate ho

theorem listFormat (env : Env) {l o : Runner} (hl : l.InStep c I false) (ho : o.InStep c J false)
    (hd : Disjoint I J) : (Locale.runner env l o).InStep c (I ∪ J) false := by
  refine ofGeneric (hl.generic.bind ?_ hd)
  rintro v _ ⟨rfl, -⟩
  refine ho.generic.andThen ?_
  rintro w _ ⟨rfl, -⟩
  refine (Lockstep.make env.locales v w).skip ?_
  rintro f _ rfl
  exact .allocateFormat f

end Runner.InStep

/-! ## Trees -/

namespace Node

mutual

/-- The slots that the tree writes: those of its writes, and those in which its compound writes keep
their indices. -/
def assigned : Node → List Nat
  | .const .. | .read .. | .patternLiteral .. => []
  | .write _ s v => s :: v.assigned
  | .binary _ _ l r => l.assigned ++ r.assigned
  | .readElement _ t i => t.assigned ++ i.assigned
  | .writeElement _ _ t i v => t.assigned ++ i.assigned ++ v.assigned
  | .compound _ _ c t i v => c.toList ++ t.assigned ++ i.assigned ++ v.assigned
  | .tagged _ c => c.assigned
  | .sequence _ ns => assignedAll ns
  | .patternExec _ p s a => p.assigned ++ s.assigned ++ a.assigned
  | .listFormat _ l o => l.assigned ++ o.assigned

/-- The slots that several trees write. -/
def assignedAll : List Node → List Nat
  | [] => []
  | n :: ns => n.assigned ++ assignedAll ns

end

mutual

/-- Whether the tree uses the slots `kept` for indices only: it reads them only as indices of
elements, and a compound write that may find its index in one of them keeps the index in one of
them, if at all. The tree itself may be such an index if `asIndex` is true. -/
def indexOnly (kept : List Nat) : Bool → Node → Bool
  | _, .const .. | _, .patternLiteral .. => true
  | asIndex, .read _ s => asIndex || !kept.contains s
  | _, .write _ _ v => indexOnly kept false v
  | _, .binary _ _ l r => indexOnly kept false l && indexOnly kept false r
  | _, .readElement _ t i => indexOnly kept false t && indexOnly kept true i
  | _, .writeElement _ _ t i v =>
    indexOnly kept false t && indexOnly kept true i && indexOnly kept false v
  | _, .compound _ _ c t i v =>
    indexOnly kept false t && indexOnly kept (c.all fun s => kept.contains s) i &&
      indexOnly kept false v
  | asIndex, .tagged _ c => indexOnly kept asIndex c
  | _, .sequence _ ns => indexOnlyAll kept ns
  | _, .patternExec _ p s a =>
    indexOnly kept false p && indexOnly kept false s && indexOnly kept false a
  | _, .listFormat _ l o => indexOnly kept false l && indexOnly kept false o

/-- Whether several trees use the slots `kept` for indices only. -/
def indexOnlyAll (kept : List Nat) : List Node → Bool
  | [] => true
  | n :: ns => indexOnly kept false n && indexOnlyAll kept ns

end

mutual

/-- Where no slots keep indices, every tree is as it should be. -/
theorem indexOnly_nil : ∀ (asIndex : Bool) (n : Node), n.indexOnly [] asIndex = true
  | _, .const .. | _, .patternLiteral .. => by simp only [indexOnly]
  | _, .read _ s => by simp [indexOnly]
  | _, .write _ _ v => by simp only [indexOnly, indexOnly_nil false v]
  | _, .binary _ _ l r => by
    simp only [indexOnly, indexOnly_nil false l, indexOnly_nil false r, Bool.and_true]
  | _, .readElement _ t i => by
    simp only [indexOnly, indexOnly_nil false t, indexOnly_nil true i, Bool.and_true]
  | _, .writeElement _ _ t i v => by
    simp only [indexOnly, indexOnly_nil false t, indexOnly_nil true i, indexOnly_nil false v,
      Bool.and_true]
  | _, .compound _ _ _ t i v => by
    simp only [indexOnly, indexOnly_nil false t, indexOnly_nil _ i, indexOnly_nil false v,
      Bool.and_true]
  | asIndex, .tagged _ n => by simp only [indexOnly, indexOnly_nil asIndex n]
  | _, .sequence _ ns => by simp only [indexOnly, indexOnlyAll_nil ns]
  | _, .patternExec _ p s a => by
    simp only [indexOnly, indexOnly_nil false p, indexOnly_nil false s, indexOnly_nil false a,
      Bool.and_true]
  | _, .listFormat _ l o => by
    simp only [indexOnly, indexOnly_nil false l, indexOnly_nil false o, Bool.and_true]

theorem indexOnlyAll_nil : ∀ ns : List Node, indexOnlyAll [] ns = true
  | [] => by simp only [indexOnlyAll]
  | n :: ns => by
    simp only [indexOnlyAll, indexOnly_nil false n, indexOnlyAll_nil ns, Bool.and_true]

end

variable {c : Scope}

mutual

/-- A tree runs in step with itself if it uses the slots that keep indices for indices only, writes
no slots but those that may be written, and has no constants out of reach. -/
theorem runner_inStep (env : Env) {asIndex : Bool} : (n : Node) → (base : Nat) →
    n.indexOnly c.kept asIndex = true → n.assigned ⊆ c.assigned →
    (∀ v ∈ n.constants, c.Inside v) → (n.runner env base).InStep c (n.cells base) asIndex
  | .const _ v, _, _, _, hconst => by
    simp only [runner, cells]
    exact (Runner.InStep.const (hconst v (List.mem_singleton_self v))).of_eq asIndex
  | .read _ slot, _, honly, _, _ => by
    simp only [indexOnly, Bool.or_eq_true, Bool.not_eq_true', List.contains_eq_mem,
      decide_eq_false_iff_not] at honly
    simp only [runner, cells]
    exact .ofGeneric (.getLocal honly)
  | .patternLiteral _ p, _, _, _, _ => by
    simp only [runner, cells]
    exact (Runner.InStep.const (.of_plain rfl)).of_eq asIndex
  | .write _ slot v, base, honly, hassigned, hconst => by
    simp only [assigned, List.cons_subset] at hassigned
    have hv := runner_inStep env v base honly hassigned.2 hconst
    simp only [runner, cells]
    exact (hv.write hassigned.1).of_eq asIndex
  | .binary _ op l r, base, honly, hassigned, hconst => by
    simp only [indexOnly, Bool.and_eq_true] at honly
    simp only [assigned, List.append_subset] at hassigned
    simp only [constants, List.forall_mem_append] at hconst
    have hl := runner_inStep env l (base + 1) honly.1 hassigned.1 hconst.1
    have hr := runner_inStep env r (base + 1 + l.sites) honly.2 hassigned.2 hconst.2
    simp only [runner, cells]
    exact (hl.binary op hr (disjoint_cells (by omega)) (apart_cells (by omega))
      (apart_cells (by omega)) env).of_eq asIndex
  | .readElement _ t i, base, honly, hassigned, hconst => by
    simp only [indexOnly, Bool.and_eq_true] at honly
    simp only [assigned, List.append_subset] at hassigned
    simp only [constants, List.forall_mem_append] at hconst
    have ht := runner_inStep env t base honly.1 hassigned.1 hconst.1
    have hi := runner_inStep env i (base + t.sites) honly.2 hassigned.2 hconst.2
    simp only [runner, cells]
    exact (ht.readElement hi (disjoint_cells (by omega))).of_eq asIndex
  | .writeElement _ flags t i v, base, honly, hassigned, hconst => by
    simp only [indexOnly, Bool.and_eq_true] at honly
    simp only [assigned, List.append_subset] at hassigned
    simp only [constants, List.forall_mem_append] at hconst
    have ht := runner_inStep env t (base + 1) honly.1.1 hassigned.1.1 hconst.1.1
    have hi := runner_inStep env i (base + 1 + t.sites) honly.1.2 hassigned.1.2 hconst.1.2
    have hv := runner_inStep env v (base + 1 + t.sites + i.sites) honly.2 hassigned.2 hconst.2
    simp only [runner, cells]
    exact (ht.writeElement hi hv (apart_cells (by omega)) (apart_cells (by omega))
      (apart_cells (by omega)) (disjoint_cells (by omega)) (disjoint_cells (by omega))
      (disjoint_cells (by omega))).of_eq asIndex
  | .compound _ flags cache t i v, base, honly, hassigned, hconst => by
    simp only [indexOnly, Bool.and_eq_true] at honly
    simp only [assigned, List.append_subset] at hassigned
    simp only [constants, List.forall_mem_append] at hconst
    have ht := runner_inStep env t (base + 1) honly.1.1 hassigned.1.1.2 hconst.1.1
    have hi := runner_inStep env i (base + 1 + t.sites) honly.1.2 hassigned.1.2 hconst.1.2
    have hv := runner_inStep env v (base + 1 + t.sites + i.sites) honly.2 hassigned.2 hconst.2
    -- an index that is kept in a slot of one form must be the same in both runs
    have hcache : ∀ s, cache = some s → s ∈ c.assigned ∧
        ((cache.all fun s => c.kept.contains s) = true → s ∈ c.kept) := by
      rintro s rfl
      exact ⟨hassigned.1.1.1 (Option.mem_toList.2 rfl), fun hs => List.mem_of_elem_eq_true hs⟩
    simp only [runner, cells]
    exact (Runner.InStep.compound hcache ht hi hv (apart_cells (by omega)) (apart_cells (by omega))
      (apart_cells (by omega)) (disjoint_cells (by omega)) (disjoint_cells (by omega))
      (disjoint_cells (by omega))).of_eq asIndex
  | .tagged about n, base, honly, hassigned, hconst => by
    have hn := runner_inStep env n base honly hassigned hconst
    simp only [runner, cells]
    exact hn.tagged env about
  | .sequence _ ns, base, honly, hassigned, hconst => by
    simp only [runner, cells]
    exact (runnerAll_inStep env ns base honly hassigned hconst).of_eq asIndex
  | .patternExec _ p s a, base, honly, hassigned, hconst => by
    simp only [indexOnly, Bool.and_eq_true] at honly
    simp only [assigned, List.append_subset] at hassigned
    simp only [constants, List.forall_mem_append] at hconst
    have hp := runner_inStep env p base honly.1.1 hassigned.1.1 hconst.1.1
    have hs := runner_inStep env s (base + p.sites) honly.1.2 hassigned.1.2 hconst.1.2
    have ha := runner_inStep env a (base + p.sites + s.sites) honly.2 hassigned.2 hconst.2
    simp only [runner, cells]
    exact (hp.patternExec hs ha (disjoint_cells (by omega)) (disjoint_cells (by omega))
      (disjoint_cells (by omega))).of_eq asIndex
  | .listFormat _ l o, base, honly, hassigned, hconst => by
    simp only [indexOnly, Bool.and_eq_true] at honly
    simp only [assigned, List.append_subset] at hassigned
    simp only [constants, List.forall_mem_append] at hconst
    have hl := runner_inStep env l base honly.1 hassigned.1 hconst.1
    have ho := runner_inStep env o (base + l.sites) honly.2 hassigned.2 hconst.2
    simp only [runner, cells]
    exact (Runner.InStep.listFormat env hl ho (disjoint_cells (by omega))).of_eq asIndex

theorem runnerAll_inStep (env : Env) : (ns : List Node) → (base : Nat) →
    indexOnlyAll c.kept ns = true → assignedAll ns ⊆ c.assigned →
    (∀ v ∈ constantsAll ns, c.Inside v) →
    (Runner.sequence (runnerAll env ns base)).InStep c (cellsAll ns base) false
  | [], _, _, _, _ => by
    simp only [runnerAll, cellsAll]
    exact .sequence_nil
  | n :: ns, base, honly, hassigned, hconst => by
    simp only [indexOnlyAll, Bool.and_eq_true] at honly
    simp only [assignedAll, List.append_subset] at hassigned
    simp only [constantsAll, List.forall_mem_append] at hconst
    have hn := runner_inStep env n base honly.1 hassigned.1 hconst.1
    have hns := runnerAll_inStep env ns (base + n.sites) honly.2 hassigned.2 hconst.2
    simp only [runnerAll, cellsAll]
    exact hn.sequence_cons hns (disjoint_cellsAll (by omega))

end

end Node

end AdaptiveTree
