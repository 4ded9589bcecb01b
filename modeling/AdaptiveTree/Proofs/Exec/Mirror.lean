import AdaptiveTree.Proofs.Exec.Meaning
import AdaptiveTree.Proofs.Rename

/-!
# Runs among other objects

A run uses the objects that it reaches from its arguments and those that it makes. It takes no
notice of other objects, except that they shift the numbers of the objects that it makes. This
module compares a run on a machine with the same run on another machine that has more objects and
list formats: the second run gives the same value or fault under a renaming, and it leaves the other
objects alone (`Node.meaning_mirrored`).

A `Lane` fixes what belongs to a run: the objects it may use of those that are there when it starts,
and the numbers at which the two runs start to make new ones. `Mirrors` relates the machines. What
is known of a value must last while objects are made, so a simulation (`Mirrored`) is stated from
given numbers of objects and list formats on.
-/

set_option autoImplicit false

namespace AdaptiveTree

open Exec

/-! ## Counts -/

/-- How many objects and list formats have been made. -/
structure Counts where
  objects : Nat
  formats : Nat
deriving DecidableEq, Repr

instance : Preorder Counts where
  le c d := c.objects ≤ d.objects ∧ c.formats ≤ d.formats
  le_refl _ := ⟨Nat.le_refl _, Nat.le_refl _⟩
  le_trans _ _ _ h h' := ⟨Nat.le_trans h.1 h'.1, Nat.le_trans h.2 h'.2⟩

/-- The value refers to what has been made. -/
def Counts.Covers (c : Counts) : Value → Prop
  | .object id => id < c.objects
  | .listFormat l => l.id < c.formats
  | _ => True

/-- How many objects and list formats a machine has made. -/
def Machine.counts (m : Machine) : Counts :=
  ⟨m.heap.objects.size, m.formats⟩

/-! ## Lanes -/

/-- Numbers below `start` stay, and those from `start` on are moved to `place`. -/
def relocate (start place id : Nat) : Nat :=
  if id < start then id else place + (id - start)

/-- The renaming that moves all that is made from `start` on to `place`. -/
def Counts.move (start place : Counts) : Renaming :=
  ⟨relocate start.objects place.objects, relocate start.formats place.formats⟩

/-- What belongs to a run: objects that are there when it starts, and the counts from which on it
makes new ones, here and in the other machine. -/
structure Lane where
  own : Nat → Prop
  start : Counts
  place : Counts
  own_lt : ∀ id, own id → id < start.objects
  le : start ≤ place

namespace Lane

variable (l : Lane)

/-- How the things of the run are called in the other machine. -/
def shift : Renaming :=
  l.start.move l.place

/-- The object belongs to the run, of which there are `n` objects by now. -/
def Has (n id : Nat) : Prop :=
  l.own id ∨ l.start.objects ≤ id ∧ id < n

/-- The value refers to what belongs to the run. -/
def Knows (c : Counts) : Value → Prop
  | .object id => l.Has c.objects id
  | .listFormat f => f.id < c.formats
  | _ => True

variable {l}

theorem Has.mono {n n' id : Nat} (h : l.Has n id) (hn : n ≤ n') : l.Has n' id :=
  h.imp_right fun ⟨hge, hlt⟩ => ⟨hge, Nat.lt_of_lt_of_le hlt hn⟩

theorem Knows.mono {c c' : Counts} {v : Value} (h : l.Knows c v) (hc : c ≤ c') :
    l.Knows c' v := by
  cases v with
  | object id => exact Has.mono h hc.1
  | listFormat f => exact Nat.lt_of_lt_of_le h hc.2
  | _ => trivial

theorem Has.lt {n id : Nat} (h : l.Has n id) (hn : l.start.objects ≤ n) : id < n := by
  rcases h with h | ⟨-, h⟩
  · exact Nat.lt_of_lt_of_le (l.own_lt id h) hn
  · exact h

theorem Knows.covers {c : Counts} {v : Value} (h : l.Knows c v) (hc : l.start ≤ c) :
    c.Covers v := by
  cases v with
  | object id => exact Has.lt h hc.1
  | listFormat f => exact h
  | _ => trivial

theorem shift_of_own {id : Nat} (h : l.own id) : l.shift.object id = id :=
  if_pos (l.own_lt id h)

theorem shift_inj {n n' id id' : Nat} (h : l.Has n id) (h' : l.Has n' id')
    (heq : l.shift.object id = l.shift.object id') : id = id' := by
  have hle := l.le.1
  simp only [shift, Counts.move, relocate] at heq
  rcases h with h | ⟨h, -⟩ <;> rcases h' with h' | ⟨h', -⟩ <;>
    grind [l.own_lt]

theorem shift_lt {n id : Nat} (h : l.Has n id) (hn : l.start.objects ≤ n) :
    l.shift.object id < l.place.objects + (n - l.start.objects) := by
  have hle := l.le.1
  rcases h with h | ⟨hge, hlt⟩
  · have := l.own_lt id h
    rw [shift_of_own h]
    omega
  · simp only [shift, Counts.move, relocate]
    rw [if_neg (by omega)]
    omega

/-- An object of the run is none of those that the other machine had before, but for its own. -/
theorem shift_ne {n id other : Nat} (h : l.Has n id) (hother : other < l.place.objects)
    (hown : ¬ l.own other) : l.shift.object id ≠ other := by
  rcases h with h | ⟨h, -⟩
  · rw [shift_of_own h]
    rintro rfl
    exact hown h
  · simp only [shift, Counts.move, relocate]
    rw [if_neg (by omega)]
    omega

end Lane

/-! ## Machines that mirror each other -/

/-- The second machine has what the first has of the lane, under its names there. Everything that
the lane has refers to the lane only, and the other objects of the second machine are those of the
heap `before`. -/
structure Mirrors (l : Lane) (before : Heap) (m n : Machine) : Prop where
  start : l.start ≤ m.counts
  objects : n.heap.objects.size = l.place.objects + (m.heap.objects.size - l.start.objects)
  formats : n.formats = l.place.formats + (m.formats - l.start.formats)
  get : ∀ id, l.Has m.heap.objects.size id → n.heap.get (l.shift.object id) =
    (m.heap.get id).rename l.shift
  held : ∀ id, l.Has m.heap.objects.size id → ∀ v, (m.heap.get id).Holds v → l.Knows m.counts v
  slot : ∀ s, n.frame.get s = (m.frame.get s).rename l.shift
  known : ∀ s, l.Knows m.counts (m.frame.get s)
  kept : ∀ id, id < l.place.objects → ¬ l.own id → n.heap.get id = before.get id

/-- The second value is the first under its name in the other machine, and belongs to the lane. -/
def Named (l : Lane) (c : Counts) (v w : Value) : Prop :=
  w = v.rename l.shift ∧ l.Knows c v

theorem Named.mono {l : Lane} {c c' : Counts} {v w : Value} (h : Named l c v w) (hc : c ≤ c') :
    Named l c' v w :=
  ⟨h.1, h.2.mono hc⟩

theorem Named.of_plain {l : Lane} {c : Counts} {v : Value} (h : v.isPlain = true) :
    Named l c v v := by
  refine ⟨(Value.rename_of_plain h _).symm, ?_⟩
  cases v with
  | object | listFormat => cases h
  | _ => trivial

/-- What belongs to the lane at the start has one name. -/
theorem Named.of_start {l : Lane} {v : Value} (h : l.Knows l.start v) : Named l l.start v v := by
  refine ⟨?_, h⟩
  cases v with
  | object id =>
    rcases h with h | ⟨hge, hlt⟩
    · rw [Value.rename, Lane.shift_of_own h]
    · omega
  | listFormat f =>
    have hid : l.shift.format f.id = f.id := if_pos h
    rw [Value.rename, hid]
  | _ => rfl

theorem Named.has {l : Lane} {c : Counts} {v w : Value} (h : Named l c v w) (id : Nat)
    (hid : v = .object id) : l.Has c.objects id := by
  subst hid
  exact h.2

namespace Mirrors

variable {l : Lane} {before : Heap} {m n : Machine}

theorem reflects (h : Mirrors l before m n) :
    m.heap.Reflects (Value.rename l.shift) l.shift.object (l.Has m.heap.objects.size) n.heap where
  get := h.get
  closed id hid _ hheld := h.held id hid _ hheld

theorem setLocal (h : Mirrors l before m n) {v w : Value} (hv : Named l m.counts v w) (slot : Nat) :
    Mirrors l before { m with frame := m.frame.set slot v }
      { n with frame := n.frame.set slot w } where
  start := h.start
  objects := h.objects
  formats := h.formats
  get := h.get
  held := h.held
  slot s := by
    simp only [Frame.get_set]
    split
    · exact hv.1
    · exact h.slot s
  known s := by
    simp only [Frame.get_set]
    split
    · exact hv.2
    · exact h.known s
  kept := h.kept

theorem shift_lt (h : Mirrors l before m n) {id : Nat} (hid : l.Has m.heap.objects.size id) :
    l.shift.object id < n.heap.objects.size := by
  rw [h.objects]
  exact Lane.shift_lt hid h.start.1

/-- One object of the lane is replaced. -/
theorem setObject (h : Mirrors l before m n) {id : Nat} (hid : l.Has m.heap.objects.size id)
    {o : Object} (ho : ∀ v, o.Holds v → l.Knows m.counts v) :
    Mirrors l before { m with heap := m.heap.set id o }
      { n with heap := n.heap.set (l.shift.object id) (o.rename l.shift) } := by
  have hcounts : ({ m with heap := m.heap.set id o } : Machine).counts = m.counts := by
    simp [Machine.counts]
  have hstart : l.start.objects ≤ m.heap.objects.size := h.start.1
  have hplace : l.place.objects ≤ n.heap.objects.size := by
    rw [h.objects]
    omega
  refine ⟨hcounts ▸ h.start, by simpa using h.objects, h.formats, ?_, ?_, h.slot, hcounts ▸ h.known,
    ?_⟩
  · intro id' hid'
    rw [Heap.size_set] at hid'
    rw [Heap.get_set _ _ _ _ (h.shift_lt hid'), Heap.get_set _ _ _ _ (hid'.lt hstart)]
    by_cases heq : id = id'
    · simp [heq]
    · rw [if_neg heq, if_neg fun hs => heq (Lane.shift_inj hid hid' hs)]
      exact h.get id' hid'
  · intro id' hid' v hv
    rw [Heap.size_set] at hid'
    rw [hcounts]
    rw [Heap.get_set _ _ _ _ (hid'.lt hstart)] at hv
    split at hv
    · exact ho v hv
    · exact h.held id' hid' v hv
  · intro id' hid' hown
    rw [Heap.get_set _ _ _ _ (Nat.lt_of_lt_of_le hid' hplace), if_neg (Lane.shift_ne hid hid' hown)]
    exact h.kept id' hid' hown

/-- A new object is made, which gets corresponding numbers. -/
theorem allocObject (h : Mirrors l before m n) {o : Object}
    (ho : ∀ v, o.Holds v → l.Knows m.counts v) :
    Mirrors l before { m with heap := (m.heap.alloc o).2 }
        { n with heap := (n.heap.alloc (o.rename l.shift)).2 } ∧
      l.Has (m.heap.objects.size + 1) m.heap.objects.size ∧
      l.shift.object m.heap.objects.size = n.heap.objects.size := by
  have hstart : l.start.objects ≤ m.heap.objects.size := h.start.1
  have hplace : l.place.objects ≤ n.heap.objects.size := by
    rw [h.objects]
    omega
  have hgrow : m.counts ≤ ({ m with heap := (m.heap.alloc o).2 } : Machine).counts :=
    ⟨by simp [Machine.counts], Nat.le_refl _⟩
  have hhas : l.Has (m.heap.objects.size + 1) m.heap.objects.size :=
    .inr ⟨hstart, Nat.lt_succ_self _⟩
  have hshift : l.shift.object m.heap.objects.size = n.heap.objects.size := by
    simp only [Lane.shift, Counts.move, relocate]
    rw [if_neg (by omega), h.objects]
  -- an object of the lane is the new one or was there before
  have hcases : ∀ id, l.Has (m.heap.alloc o).2.objects.size id →
      id = m.heap.objects.size ∨ l.Has m.heap.objects.size id := by
    intro id hid
    rw [Heap.size_alloc] at hid
    rcases hid with hid | ⟨hge, hlt⟩
    · exact .inr (.inl hid)
    · by_cases heq : id = m.heap.objects.size
      · exact .inl heq
      · exact .inr (.inr ⟨hge, by omega⟩)
  refine ⟨⟨h.start.trans hgrow, ?_, h.formats, ?_, ?_, h.slot,
    fun s => (h.known s).mono hgrow, ?_⟩, hhas, hshift⟩
  · simp only [Heap.size_alloc, h.objects]
    omega
  · intro id hid
    rw [Heap.get_alloc, Heap.get_alloc]
    rcases hcases id hid with rfl | hid
    · rw [if_pos hshift, if_pos rfl]
    · rw [if_neg (Nat.ne_of_lt (h.shift_lt hid)), if_neg (Nat.ne_of_lt (hid.lt hstart))]
      exact h.get id hid
  · intro id hid v hv
    rw [Heap.get_alloc] at hv
    rcases hcases id hid with rfl | hid
    · rw [if_pos rfl] at hv
      exact (ho v hv).mono hgrow
    · rw [if_neg (Nat.ne_of_lt (hid.lt hstart))] at hv
      exact (h.held id hid v hv).mono hgrow
  · intro id hid hown
    rw [Heap.get_alloc, if_neg (by omega)]
    exact h.kept id hid hown

theorem allocFormat (h : Mirrors l before m n) :
    Mirrors l before { m with formats := m.formats + 1 } { n with formats := n.formats + 1 } ∧
      l.shift.format m.formats = n.formats := by
  have hstart : l.start.formats ≤ m.formats := h.start.2
  have hgrow : m.counts ≤ ({ m with formats := m.formats + 1 } : Machine).counts :=
    ⟨Nat.le_refl _, Nat.le_succ _⟩
  refine ⟨⟨h.start.trans hgrow, h.objects, ?_, h.get,
    fun id hid v hv => (h.held id hid v hv).mono hgrow, h.slot, fun s => (h.known s).mono hgrow,
    h.kept⟩, ?_⟩
  · have := h.formats
    simp only
    omega
  · simp only [Lane.shift, Counts.move, relocate]
    rw [if_neg (by omega), h.formats]

end Mirrors

/-! ## Computations on machines that mirror each other -/

section

variable {α β γ δ : Type} {l : Lane} {before : Heap} {b : Counts}

/-- From machines that mirror each other and have made at least as much as `b` says, the second
computation mirrors the first, and its results are related by `V` from then on. -/
def Mirrored (l : Lane) (before : Heap) (b : Counts) (V : Counts → α → β → Prop) (x : Exec α)
    (y : Exec β) : Prop :=
  Sim (fun m n => Mirrors l before m n ∧ b ≤ m.counts) (Mirrors l before)
    (fun a c m n => V m.counts a c ∧ Mirrors l before m n ∧ b ≤ m.counts) x y

/-- The results are the same. -/
def Equal (_ : Counts) (a c : α) : Prop :=
  a = c

variable {V : Counts → α → β → Prop} {W : Counts → γ → δ → Prop}

namespace Mirrored

theorem bind {x : Exec α} {y : Exec β} {f : α → Exec γ} {g : β → Exec δ}
    (hx : Mirrored l before b V x y)
    (hf : ∀ b' a c, b ≤ b' → V b' a c → Mirrored l before b' W (f a) (g c)) :
    Mirrored l before b W (x >>= f) (y >>= g) := by
  refine Sim.bind hx fun a c m n h => ?_
  obtain ⟨hv, hmn, hb⟩ := h
  refine (hf m.counts a c hb hv ⟨hmn, le_refl _⟩).mono (fun _ _ h => h) ?_
  rintro a' c' m' n' ⟨hw, hmn', hb'⟩
  exact ⟨hw, hmn', hb.trans hb'⟩

theorem bind_eq {x y : Exec α} {f : α → Exec γ} {g : α → Exec δ}
    (hx : Mirrored l before b Equal x y)
    (hf : ∀ b' a, b ≤ b' → Mirrored l before b' W (f a) (g a)) :
    Mirrored l before b W (x >>= f) (y >>= g) :=
  hx.bind fun b' a _ hb hac => hac ▸ hf b' a hb

theorem pure {a : α} {c : β} (h : ∀ b', b ≤ b' → V b' a c) :
    Mirrored l before b V (pure a) (pure c) :=
  fun m _ ⟨hmn, hb⟩ => .ok ⟨h m.counts hb, hmn, hb⟩

theorem fail (e : Fault) : Mirrored l before b V (fail e) (fail e) :=
  fun _ _ ⟨hmn, _⟩ => .error hmn

theorem ofExcept (x : Except Fault α) :
    Mirrored l before b Equal (Exec.ofExcept x) (Exec.ofExcept x) := by
  rintro m n ⟨hmn, hb⟩
  cases x with
  | ok a => exact .ok ⟨rfl, hmn, hb⟩
  | error e => exact .error hmn

theorem read {f : Machine → α} {g : Machine → β}
    (h : ∀ m n, Mirrors l before m n → b ≤ m.counts → V m.counts (f m) (g n)) :
    Mirrored l before b V (Exec.read f) (Exec.read g) :=
  fun m n ⟨hmn, hb⟩ => .ok ⟨h m n hmn hb, hmn, hb⟩

end Mirrored

end

namespace Mirrored

variable {l : Lane} {before : Heap} {b : Counts} {t t' u u' v v' w w' : Value}

theorem getLocal (slot : Nat) :
    Mirrored l before b (Named l) (Exec.getLocal slot) (Exec.getLocal slot) :=
  .read fun _ _ h _ => ⟨h.slot slot, h.known slot⟩

theorem setLocal (slot : Nat) (hv : Named l b v v') :
    Mirrored l before b Equal (Exec.setLocal slot v) (Exec.setLocal slot v') :=
  fun _ _ ⟨hmn, hb⟩ => .ok ⟨rfl, hmn.setLocal (hv.mono hb) slot, hb⟩

theorem display (hv : Named l b v v') :
    Mirrored l before b Equal (Exec.read fun m => m.heap.display v)
      (Exec.read fun m => m.heap.display v') := by
  obtain ⟨rfl, hknows⟩ := hv
  refine .read fun m n h hb => ?_
  exact (h.reflects.display (Value.rename_faithful _) (Named.has ⟨rfl, hknows.mono hb⟩)).symm

theorem key (hv : Named l b v v') :
    Mirrored l before b Equal (Exec.key v) (Exec.key v') := by
  obtain ⟨rfl, hknows⟩ := hv
  refine .read fun m n h hb => ?_
  exact (h.reflects.key (Value.rename_faithful _) (Named.has ⟨rfl, hknows.mono hb⟩)).symm

theorem apply (op : Op) (hv : Named l b v v') (hw : Named l b w w') :
    Mirrored l before b (Named l) (Binary.apply op v w) (Binary.apply op v' w') := by
  obtain ⟨rfl, hv⟩ := hv
  obtain ⟨rfl, hw⟩ := hw
  refine .read fun m n h hb => ?_
  rw [Op.apply_rename op h.reflects (Named.has ⟨rfl, hv.mono hb⟩) (Named.has ⟨rfl, hw.mono hb⟩)]
  exact .of_plain (op.isPlain_apply _ _ _)

theorem runRead (ht : Named l b t t') (k : Key) :
    Mirrored l before b (Named l) (Element.runRead t k) (Element.runRead t' k) := by
  obtain ⟨rfl, ht⟩ := ht
  rintro m n ⟨hmn, hb⟩
  cases t with
  | object id =>
    have hid := (ht.mono hb : l.Has _ id)
    refine .ok ⟨⟨?_, ?_⟩, hmn, hb⟩
    · rw [hmn.get id hid, Object.rename_get]
    · rcases Object.get_cases (m.heap.get id) k with hheld | hplain
      · exact hmn.held id hid _ hheld
      · exact (Named.of_plain hplain).2
  | undefined | null => exact .error hmn
  | string s => exact .ok ⟨.of_plain (Element.isPlain_ofString s k), hmn, hb⟩
  | pattern p => exact .ok ⟨.of_plain (Element.isPlain_ofPattern p.value k), hmn, hb⟩
  | listFormat f => exact .ok ⟨.of_plain (Element.isPlain_ofListFormat f.value k), hmn, hb⟩
  | bool | int | double => exact .ok ⟨.of_plain rfl, hmn, hb⟩

theorem runStore (flags : StoreFlags) (ht : Named l b t t') (k : Key) (hv : Named l b v v') :
    Mirrored l before b (Named l) (Element.runStore flags t k v)
      (Element.runStore flags t' k v') := by
  obtain ⟨rfl, ht⟩ := ht
  obtain ⟨rfl, hv⟩ := hv
  have hf := Value.rename_faithful l.shift
  rintro m n ⟨hmn, hb⟩
  simp only [Element.runStore]
  by_cases hobj : ∃ id, t = .object id
  · obtain ⟨id, rfl⟩ := hobj
    have hid := (ht.mono hb : l.Has _ id)
    have hput := Object.put_mapValues (Value.rename l.shift) (m.heap.get id) k (hf.arrayLength? v)
      flags
    simp only [Element.store, hf.object, hmn.get id hid, Object.rename, hput]
    cases hres : (m.heap.get id).put k v flags with
    | error e => exact .error hmn
    | ok o =>
      have ho : ∀ u, o.Holds u → l.Knows m.counts u := by
        intro u hu
        rcases Object.holds_of_put hres hu with rfl | hu
        · exact hv.mono hb
        · exact hmn.held id hid u hu
      have hcounts : ({ m with heap := m.heap.set id o } : Machine).counts = m.counts := by
        simp [Machine.counts]
      exact .ok ⟨⟨rfl, hcounts ▸ hv.mono hb⟩, hmn.setObject hid ho, hcounts ▸ hb⟩
  · have hprim : ∀ id, t ≠ .object id := fun id hid => hobj ⟨id, hid⟩
    cases hnull : t.isNullish with
    | true =>
      cases t with
      | undefined | null => exact .error hmn
      | _ => cases hnull
    | false =>
      rw [Element.store_of_primitive flags _ hprim hnull,
        Element.store_of_primitive flags _ (hf.ne_object hprim) (by rw [hf.isNullish, hnull]),
        hf.typeName, hmn.reflects.display hf fun id hid => absurd hid (hprim id)]
      cases flags.fails with
      | true => exact .error hmn
      | false => exact .ok ⟨⟨rfl, hv.mono hb⟩, hmn, hb⟩

theorem result (text : String) (found : Pattern.Match) :
    Mirrored l before b (fun _ o o' => o = o' ∧ ∀ v, o.Holds v → v.isPlain = true)
      (Exec.ofExcept (Match.result text found)) (Exec.ofExcept (Match.result text found)) := by
  rintro m n ⟨hmn, hb⟩
  cases hres : Match.result text found with
  | ok o => exact .ok ⟨⟨rfl, fun _ => Match.isPlain_result hres⟩, hmn, hb⟩
  | error e => exact .error hmn

theorem allocate {o : Object} (ho : ∀ v, o.Holds v → v.isPlain = true) :
    Mirrored l before b (Named l) (Match.allocate o) (Match.allocate o) := by
  rintro m n ⟨hmn, hb⟩
  obtain ⟨halloc, hhas, hshift⟩ := hmn.allocObject fun v hv => (Named.of_plain (ho v hv)).2
  have hsame : o.rename l.shift = o :=
    Object.mapValues_eq_self fun v hv => Value.rename_of_plain (ho v hv) _
  rw [hsame] at halloc
  refine .ok ⟨⟨?_, ?_⟩, halloc, ?_⟩
  · show Value.object n.heap.objects.size = .object (l.shift.object m.heap.objects.size)
    rw [hshift]
  · show l.Has (m.heap.alloc o).2.objects.size m.heap.objects.size
    rwa [Heap.size_alloc]
  · exact ⟨by simpa [Machine.counts] using Nat.le_succ_of_le hb.1, hb.2⟩

theorem make (d : Locale.Data) (hv : Named l b v v') (hw : Named l b w w') :
    Mirrored l before b Equal (fun m => (Locale.ListFormat.make m.heap d v w, m))
      (fun m => (Locale.ListFormat.make m.heap d v' w', m)) := by
  obtain ⟨rfl, hv⟩ := hv
  obtain ⟨rfl, hw⟩ := hw
  rintro m n ⟨hmn, hb⟩
  have hmake := hmn.reflects.make (Value.rename_faithful _) d (Named.has ⟨rfl, hv.mono hb⟩)
    (Named.has ⟨rfl, hw.mono hb⟩)
  simp only [hmake]
  cases Locale.ListFormat.make m.heap d v w with
  | ok f => exact .ok ⟨rfl, hmn, hb⟩
  | error e => exact .error hmn

theorem allocateFormat (f : Locale.ListFormat) :
    Mirrored l before b (Named l) (Locale.allocate f) (Locale.allocate f) := by
  rintro m n ⟨hmn, hb⟩
  obtain ⟨halloc, hshift⟩ := hmn.allocFormat
  refine .ok ⟨⟨?_, Nat.lt_succ_self _⟩, halloc, ⟨hb.1, Nat.le_succ_of_le hb.2⟩⟩
  show Value.listFormat ⟨n.formats, f⟩ = .listFormat ⟨l.shift.format m.formats, f⟩
  rw [hshift]

theorem patternOf (hv : Named l b v v') :
    Mirrored l before b Equal (Match.patternOf v) (Match.patternOf v') := by
  have hfail : Mirrored l before b (@Equal Pattern)
      (do Exec.fail (.notPattern (← Exec.read fun m => m.heap.display v)))
      (do Exec.fail (.notPattern (← Exec.read fun m => m.heap.display v'))) :=
    (display hv).bind_eq fun _ _ _ => .fail _
  obtain ⟨rfl, -⟩ := hv
  cases v with
  | pattern p => exact .pure fun _ _ => rfl
  | _ => exact hfail

theorem last {xs ys : List (Exec Value)}
    (h : List.Forall₂ (fun x y => ∀ b, Mirrored l before b (Named l) x y) xs ys) (b : Counts) :
    Mirrored l before b (Named l) (Exec.last xs) (Exec.last ys) := by
  induction h generalizing b with
  | nil => exact .pure fun _ _ => .of_plain rfl
  | @cons x y xs ys hxy hrest ih =>
    cases hrest with
    | nil => exact hxy b
    | cons _ _ => exact (hxy b).bind fun b' _ _ _ _ => ih b'

theorem const (hv : Named l l.start v v) :
    Mirrored l before b (Named l) (Pure.pure v) (Pure.pure v) :=
  fun _ _ ⟨hmn, hb⟩ => .ok ⟨hv.mono hmn.start, hmn, hb⟩

/-- The same place: one target under two names, and the same key. -/
def Placed (l : Lane) (c : Counts) (p q : Value × Key) : Prop :=
  Named l c p.1 q.1 ∧ p.2 = q.2

section

variable {x y z x' y' z' : Exec Value}

theorem placeAt (hx : ∀ b, Mirrored l before b (Named l) x x')
    (hy : ∀ b, Mirrored l before b (Named l) y y') (b : Counts) :
    Mirrored l before b (Placed l) (Exec.placeAt x y) (Exec.placeAt x' y') := by
  refine (hx b).bind fun b₁ t t' _ ht => ?_
  refine Mirrored.bind_eq ?_ fun b₂ k h₂ => .pure fun c hc => ⟨ht.mono (h₂.trans hc), rfl⟩
  exact (hy b₁).bind fun _ _ _ _ hi => .key hi

theorem checkTarget (ht : Named l b t t') :
    Mirrored l before b Equal (Exec.ofExcept (Write.checkTarget t))
      (Exec.ofExcept (Write.checkTarget t')) := by
  have hf := Value.rename_faithful l.shift
  obtain ⟨rfl, -⟩ := ht
  have hcheck : Write.checkTarget (t.rename l.shift) = Write.checkTarget t := by
    simp only [Write.checkTarget, hf.isNullish, hf.typeName]
  rw [hcheck]
  exact .ofExcept _

theorem keepKey (cache : Option Nat) (hv : Named l b v v') :
    Mirrored l before b Equal (Exec.keepKey cache v) (Exec.keepKey cache v') := by
  refine (Mirrored.key hv).bind_eq fun b₁ k _ =>
    Mirrored.bind_eq ?_ fun _ _ _ => .pure fun _ _ => rfl
  cases cache with
  | none => exact .pure fun _ _ => rfl
  | some slot => exact .setLocal slot (.of_plain k.isPlain_toValue)

theorem checkedPlaceAt (cache : Option Nat) (hx : ∀ b, Mirrored l before b (Named l) x x')
    (hy : ∀ b, Mirrored l before b (Named l) y y') (b : Counts) :
    Mirrored l before b (Placed l) (Exec.checkedPlaceAt cache x y)
      (Exec.checkedPlaceAt cache x' y') := by
  refine (hx b).bind fun b₁ t t' _ ht => (checkTarget ht).bind_eq fun b₂ _ h₂ => ?_
  refine (hy b₂).bind fun b₃ i i' h₃ hi => (keepKey cache hi).bind_eq fun b₄ k h₄ => ?_
  exact .pure fun c hc => ⟨ht.mono (h₂.trans (h₃.trans (h₄.trans hc))), rfl⟩

theorem storeAt (flags : StoreFlags) {place place' : Exec (Value × Key)}
    (hp : ∀ b, Mirrored l before b (Placed l) place place')
    (hz : ∀ b, Mirrored l before b (Named l) z z') (b : Counts) :
    Mirrored l before b (Named l) (Exec.storeAt flags place z) (Exec.storeAt flags place' z') := by
  refine (hp b).bind ?_
  rintro b₁ ⟨t, k⟩ ⟨t', _⟩ - ⟨ht, rfl⟩
  exact (hz b₁).bind fun b₂ v v' h₂ hv => .runStore flags (ht.mono h₂) k hv

end

end Mirrored

/-! ## Trees -/

namespace Node

mutual

/-- The constants of the tree. -/
def constants : Node → List Value
  | .const _ v => [v]
  | .read .. | .patternLiteral .. => []
  | .write _ _ v => v.constants
  | .binary _ _ l r => l.constants ++ r.constants
  | .readElement _ t i => t.constants ++ i.constants
  | .writeElement _ _ t i v | .compound _ _ _ t i v => t.constants ++ i.constants ++ v.constants
  | .tagged _ c => c.constants
  | .sequence _ ns => constantsAll ns
  | .patternExec _ p s a => p.constants ++ s.constants ++ a.constants
  | .listFormat _ l o => l.constants ++ o.constants

/-- The constants of several trees. -/
def constantsAll : List Node → List Value
  | [] => []
  | n :: ns => n.constants ++ constantsAll ns

end

variable {l : Lane} {before : Heap}

mutual

/-- A run mirrors itself among other objects, if the constants of the tree have the same name in
both. -/
theorem meaning_mirrored (d : Locale.Data) : (t : Node) →
    (∀ v ∈ t.constants, Named l l.start v v) → (b : Counts) →
    Mirrored l before b (Named l) (t.meaning d) (t.meaning d)
  | .const _ v, hconst, _ => .const (hconst v (List.mem_singleton_self v))
  | .read _ slot, _, _ => .getLocal slot
  | .write _ slot v, hconst, b =>
    (meaning_mirrored d v hconst b).bind fun _ _ _ _ hx =>
      (Mirrored.setLocal slot hx).bind_eq fun _ _ h₂ => .pure fun _ hc => hx.mono (h₂.trans hc)
  | .binary _ op x y, hconst, b => by
    simp only [constants, List.forall_mem_append] at hconst
    refine (meaning_mirrored d x hconst.1 b).bind fun b₁ _ _ _ hx => ?_
    exact (meaning_mirrored d y hconst.2 b₁).bind fun _ _ _ h₂ hy => .apply op (hx.mono h₂) hy
  | .readElement _ t i, hconst, b => by
    simp only [constants, List.forall_mem_append] at hconst
    refine (meaning_mirrored d t hconst.1 b).bind fun b₁ _ _ _ ht => ?_
    refine (meaning_mirrored d i hconst.2 b₁).bind fun b₂ _ _ h₂ hi => ?_
    exact (Mirrored.key hi).bind_eq fun _ k h₃ => .runRead (ht.mono (h₂.trans h₃)) k
  | .writeElement _ flags t i v, hconst, b => by
    simp only [constants, List.forall_mem_append] at hconst
    exact .storeAt flags
      (.placeAt (meaning_mirrored d t hconst.1.1) (meaning_mirrored d i hconst.1.2))
      (meaning_mirrored d v hconst.2) b
  | .compound _ flags cache t i v, hconst, b => by
    simp only [constants, List.forall_mem_append] at hconst
    exact .storeAt flags
      (.checkedPlaceAt cache (meaning_mirrored d t hconst.1.1) (meaning_mirrored d i hconst.1.2))
      (meaning_mirrored d v hconst.2) b
  | .tagged _ c, hconst, b => meaning_mirrored d c hconst b
  | .sequence _ ns, hconst, b => .last (meaningAll_mirrored d ns hconst) b
  | .patternLiteral _ p, _, _ => .const (.of_plain rfl)
  | .patternExec _ p s a, hconst, b => by
    simp only [constants, List.forall_mem_append] at hconst
    refine (meaning_mirrored d p hconst.1.1 b).bind fun b₁ _ _ _ hp =>
      (Mirrored.patternOf hp).bind_eq fun b₂ pattern _ => ?_
    refine (meaning_mirrored d s hconst.1.2 b₂).bind fun b₃ _ _ _ hs =>
      (Mirrored.display hs).bind_eq fun b₄ text _ => ?_
    refine (meaning_mirrored d a hconst.2 b₄).bind fun b₅ v v' _ hv => ?_
    rw [hv.1, (Value.rename_faithful l.shift).toNumber]
    cases (Number.offset? v.toNumber).bind (pattern.run text) with
    | none => exact .const (.of_plain rfl)
    | some found =>
      refine Mirrored.bind (Mirrored.result text found) fun _ o o' _ ho => ?_
      obtain ⟨rfl, ho⟩ := ho
      exact .allocate ho
  | .listFormat _ x y, hconst, b => by
    simp only [constants, List.forall_mem_append] at hconst
    refine (meaning_mirrored d x hconst.1 b).bind fun b₁ _ _ _ hx => ?_
    refine (meaning_mirrored d y hconst.2 b₁).bind fun _ _ _ h₂ hy => ?_
    exact (Mirrored.make d (hx.mono h₂) hy).bind_eq fun _ f _ => .allocateFormat f

/-- Runs of several trees mirror themselves one by one. -/
theorem meaningAll_mirrored (d : Locale.Data) : (ns : List Node) →
    (∀ v ∈ constantsAll ns, Named l l.start v v) →
    List.Forall₂ (fun x y => ∀ b, Mirrored l before b (Named l) x y) (meaningAll d ns)
      (meaningAll d ns)
  | [], _ => .nil
  | n :: ns, hconst => by
    simp only [constantsAll, List.forall_mem_append] at hconst
    exact .cons (meaning_mirrored d n hconst.1) (meaningAll_mirrored d ns hconst.2)

end

end Node

end AdaptiveTree
