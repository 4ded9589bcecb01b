import AdaptiveTree.Proofs.Exec.Meaning

/-!
# The slot of a compound write keeps the key of the store

A compound write with a slot for its index finds the key of the index and stores under that key
later, after its value was evaluated. `Keeps` says what the prologue leaves behind: the slot holds a
value that addresses this key, and all other slots and all objects are as they were. This holds with
a given target and index and at the end of the prologue of a whole node (`prologue_keeps_key`),
because the value that a key is kept as addresses that key again (`Heap.key_toValue`).
-/

set_option autoImplicit false

namespace AdaptiveTree.Write

/-- From `m` to `m'` the slot was made to hold a value that addresses the key, in whatever heap. No
other slot and no object has changed. -/
structure Keeps (slot : Nat) (k : Key) (m m' : Machine) : Prop where
  key : ∀ h : Heap, h.key (m'.frame.get slot) = k
  others : ∀ s, s ≠ slot → m'.frame.get s = m.frame.get s
  heap : m'.heap = m.heap

/-- Writing a value that addresses the key, after steps that change neither frame nor heap. -/
theorem Keeps.of_set {slot : Nat} {k : Key} {v : Value} {m n : Machine}
    (hk : ∀ h : Heap, h.key v = k) (hframe : n.frame = m.frame) (hheap : n.heap = m.heap) :
    Keeps slot k m { n with frame := n.frame.set slot v } where
  key h := by
    rw [Frame.get_set, if_pos rfl]
    exact hk h
  others s hs := by
    rw [Frame.get_set, if_neg hs, hframe]
  heap := hheap

/-- What happened before without changing slots and objects makes no difference. -/
theorem Keeps.after {slot : Nat} {k : Key} {m n m' : Machine} (h : Keeps slot k n m')
    (hframe : n.frame = m.frame) (hheap : n.heap = m.heap) : Keeps slot k m m' where
  key := h.key
  others s hs := by rw [h.others s hs, hframe]
  heap := h.heap.trans hheap

/-- What a runner does from `m` on is a store to the target under the key from `m'` on. On the
generic channel the store is `generic`, and on the others that of the write. -/
structure StoresFrom (w : Parts) (generic : Value → Key → Exec Value) (r : Runner) (m : Machine)
    (t : Value) (k : Key) (m' : Machine) : Prop where
  generic : r.generic m = generic t k m'
  int : r.int m = storeInt w t k m'
  double : r.double m = storeDouble w t k m'

variable (env : Env) (w : Parts) (slot : Nat)

/-- An index is converted to its key, which the slot then addresses. -/
theorem convertIndex_keeps (v : Value) (m : Machine) :
    ∃ m', convertIndex w (some slot) v m = (.ok (m.heap.key v), m') ∧
      Keeps slot (m.heap.key v) m m' := by
  refine ⟨_, rfl, .of_set (fun h => ?_) rfl rfl⟩
  exact Heap.key_toValue h (Heap.key_proper _ v)

/-- An integer index is kept as it is, and addresses its key. -/
theorem convertInt_keeps (i : Int32) (m : Machine) :
    ∃ m', convertInt (some slot) i m = (.ok (.ofInt i), m') ∧ Keeps slot (.ofInt i) m m' :=
  ⟨_, rfl, .of_set (fun _ => rfl) rfl rfl⟩

/-- Checking a target that is neither null nor undefined succeeds, and changes no slot and no
object. -/
theorem runCheck_ok {target : Value} (ht : target.isNullish = false) (m : Machine) :
    ∃ m', runCheck w target m = (.ok (), m') ∧ m'.frame = m.frame ∧ m'.heap = m.heap := by
  refine ⟨(runCheck w target m).2, ?_, rfl, rfl⟩
  simp [runCheck, Exec.bind_apply, Exec.publishTargetCheck, checkTarget, ht]

/-- A given target is checked, and the key of a given index is kept. -/
theorem prepare_keeps {target : Value} (ht : target.isNullish = false) (index : Value)
    (m : Machine) :
    ∃ m', prepare w (some slot) target index m = (.ok (m.heap.key index), m') ∧
      Keeps slot (m.heap.key index) m m' := by
  obtain ⟨n, hcheck, hframe, hheap⟩ := runCheck_ok w ht m
  obtain ⟨m', hconvert, hkeeps⟩ := convertIndex_keeps w slot index n
  rw [hheap] at hconvert hkeeps
  exact ⟨m', (Exec.bind_ok hcheck).trans hconvert, hkeeps.after hframe hheap⟩

/-- The same for a given integer index. -/
theorem prepareInt_keeps {target : Value} (ht : target.isNullish = false) (i : Int32)
    (m : Machine) :
    ∃ m', prepareInt w (some slot) target i m = (.ok (.ofInt i), m') ∧
      Keeps slot (.ofInt i) m m' := by
  obtain ⟨n, hcheck, hframe, hheap⟩ := runCheck_ok w ht m
  obtain ⟨m', hconvert, hkeeps⟩ := convertInt_keeps slot i n
  exact ⟨m', (Exec.bind_ok hcheck).trans hconvert, hkeeps.after hframe hheap⟩

/-- With an evaluated index, the prologue of a whole node ends by keeping its key. -/
theorem compoundPlace_keeps {target : Runner} {m m₁ m₂ : Machine} {t : Value} {i : IndexValue}
    (htarget : target.generic m = (.ok t, m₁)) (ht : t.isNullish = false)
    (hindex : runIndex env w (runCheck w t m₁).2 = (.ok i, m₂)) :
    ∃ m', compoundPlace env w (some slot) target m = (.ok (t, m₂.heap.key i.value), m') ∧
      Keeps slot (m₂.heap.key i.value) m₂ m' := by
  obtain ⟨n, hcheck, -, -⟩ := runCheck_ok w ht m₁
  rw [hcheck] at hindex
  unfold compoundPlace
  rw [Exec.bind_ok htarget, Exec.bind_ok hcheck, Exec.bind_ok hindex]
  cases i with
  | int j =>
    obtain ⟨m', hconvert, hkeeps⟩ := convertInt_keeps slot j m₂
    exact ⟨m', Exec.bind_ok hconvert, hkeeps⟩
  | generic v =>
    obtain ⟨m', hconvert, hkeeps⟩ := convertIndex_keeps w slot v m₂
    exact ⟨m', Exec.bind_ok hconvert, hkeeps⟩

theorem StoresFrom.runnerAfter {place : Exec (Value × Key)} {m m' : Machine} {t : Value} {k : Key}
    (h : place m = (.ok (t, k), m')) :
    StoresFrom w (storeObserved env w) (Write.runnerAfter env w place) m t k m' :=
  ⟨Exec.bind_ok h, Exec.bind_ok h, Exec.bind_ok h⟩

theorem StoresFrom.entryRunner {key : Exec Key} {m m' : Machine} {t : Value} {k : Key}
    (h : key m = (.ok k, m')) :
    StoresFrom w (storeGeneric w) (Write.entryRunner w t key) m t k m' :=
  ⟨Exec.bind_ok h, Exec.bind_ok h, Exec.bind_ok h⟩

/-- A compound write keeps its index as a value that addresses the key of the store. The value that
a key is kept as addresses the key again. With a target that is neither null nor undefined, the
prologues for a given index and for a given integer index find the key of the index, leave it in the
slot and change nothing else, and each channel stores under this key. In the same way the prologue
of a whole node ends, whatever the target and the index are evaluated by. -/
theorem prologue_keeps_key :
    (∀ (h h' : Heap) (v : Value), h'.key (h.key v).toValue = h.key v) ∧
    (∀ (target index : Value) (m : Machine), target.isNullish = false →
      ∃ m', prepare w (some slot) target index m = (.ok (m.heap.key index), m') ∧
        Keeps slot (m.heap.key index) m m' ∧
        StoresFrom w (storeGeneric w)
          (entryRunner w target (prepare w (some slot) target index)) m target
          (m.heap.key index) m') ∧
    (∀ (target : Value) (i : Int32) (m : Machine), target.isNullish = false →
      ∃ m', prepareInt w (some slot) target i m = (.ok (.ofInt i), m') ∧
        Keeps slot (.ofInt i) m m' ∧
        StoresFrom w (storeGeneric w)
          (entryRunner w target (prepareInt w (some slot) target i)) m target (.ofInt i) m') ∧
    (∀ (target : Runner) (m m₁ m₂ : Machine) (t : Value) (i : IndexValue),
      target.generic m = (.ok t, m₁) → t.isNullish = false →
      runIndex env w (runCheck w t m₁).2 = (.ok i, m₂) →
      ∃ m', Keeps slot (m₂.heap.key i.value) m₂ m' ∧
        StoresFrom w (storeObserved env w) (compoundRunner env w (some slot) target) m t
          (m₂.heap.key i.value) m') := by
  refine ⟨fun h h' v => Heap.key_toValue h' (Heap.key_proper h v), ?_, ?_, ?_⟩
  · intro target index m ht
    obtain ⟨m', hrun, hkeeps⟩ := prepare_keeps w slot ht index m
    exact ⟨m', hrun, hkeeps, .entryRunner w hrun⟩
  · intro target i m ht
    obtain ⟨m', hrun, hkeeps⟩ := prepareInt_keeps w slot ht i m
    exact ⟨m', hrun, hkeeps, .entryRunner w hrun⟩
  · intro target m m₁ m₂ t i htarget ht hindex
    obtain ⟨m', hrun, hkeeps⟩ := compoundPlace_keeps env w slot htarget ht hindex
    exact ⟨m', hkeeps, .runnerAfter env w hrun⟩

/-! ### An index that only a double can hold -/

/-- A write at an index above all integers of 32 bits, of the index that it keeps. -/
def farWrite : Parts where
  flags := {}
  site := 0
  index := .ofGeneric (return .double (Number.ofInt 3000000000))
  value := .ofGeneric (Exec.getLocal 1)

/-- An array in slot 0. -/
def farStart : Machine :=
  ⟨⟨#[.array []]⟩, .ofArgs 2 [.object 0], ⟨#[]⟩, 0, [], 0⟩

theorem key_far (h : Heap) : h.key (.double (Number.ofInt 3000000000)) = .index 3000000000 := by
  have hfit : Number.FitsDouble 3000000000 := by unfold Number.FitsDouble; decide
  simp only [Heap.key, Key.ofDouble, Number.integer?_ofInt hfit]
  rfl

/-- The slot of the write at the far index addresses this index, at its entry with the index given
and in the whole node. -/
theorem prologue_keeps_key_far :
    (Value.object 0).isNullish = false ∧
    (∃ m', prepare farWrite (some 1) (.object 0) (.double (Number.ofInt 3000000000)) farStart =
        (.ok (.index 3000000000), m') ∧ Keeps 1 (.index 3000000000) farStart m') ∧
    ∃ m₂ m', Keeps 1 (.index 3000000000) m₂ m' ∧
      StoresFrom farWrite (storeObserved ⟨true, false, ⟨"en", []⟩⟩ farWrite)
        (compoundRunner ⟨true, false, ⟨"en", []⟩⟩ farWrite (some 1) (.ofGeneric (Exec.getLocal 0)))
        farStart (.object 0) (.index 3000000000) m' := by
  obtain ⟨-, hprepare, -, hnode⟩ := prologue_keeps_key ⟨true, false, ⟨"en", []⟩⟩ farWrite 1
  refine ⟨rfl, ?_, ?_⟩
  · obtain ⟨m', hrun, hkeeps, -⟩ :=
      hprepare (.object 0) (.double (Number.ofInt 3000000000)) farStart rfl
    rw [key_far] at hrun hkeeps
    exact ⟨m', hrun, hkeeps⟩
  · obtain ⟨m', hkeeps, hstores⟩ :=
      hnode (.ofGeneric (Exec.getLocal 0)) farStart farStart _ (.object 0)
        (.generic (.double (Number.ofInt 3000000000))) rfl rfl rfl
    rw [IndexValue.value, key_far] at hkeeps hstores
    exact ⟨_, m', hkeeps, hstores⟩

end AdaptiveTree.Write
