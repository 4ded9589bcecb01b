import AdaptiveTree.Frame
import AdaptiveTree.Proofs.Number.Digits
import Mathlib.Data.Finset.Card
import Mathlib.Data.Finset.Range

/-!
# The slots of a layout

Slots are handed out on request, by name or for a temporary. Names and temporaries share one table,
where a temporary stands under a generated name, so that they are kept apart only as long as nobody
asks for a generated name. Then any sequence of requests to a new layout is served without aliases
(`serveAll_unaliased`): a temporary gets a slot of its own, a name always the same one, and what was
handed out stays as it is.

The proof follows the requests with the list of those already served. What holds of that list and
the layout (`Serves`) is kept by one more request (`Serves.serve`), and so by all of them.
-/

set_option autoImplicit false

namespace AdaptiveTree

/-- A request for a slot. -/
inductive SlotRequest where
  | named (name : String)
  | temp
deriving DecidableEq, Repr

namespace Layout

/-- The slot that a request gets, and the layout after it. -/
def serve (l : Layout) : SlotRequest → Nat × Layout
  | .named name => l.addSlot name
  | .temp => l.addTemp

/-- The slots that requests get one after the other, and the layout after them. -/
def serveAll (l : Layout) : List SlotRequest → List Nat × Layout
  | [] => ([], l)
  | r :: rs =>
    let (slot, l) := l.serve r
    let (slots, l) := l.serveAll rs
    (slot :: slots, l)

/-- Whether a name has the form of the generated ones: `:tmp` followed by digits. -/
def isTempName (name : String) : Bool :=
  match name.toList with
  | ':' :: 't' :: 'm' :: 'p' :: d :: ds => (d :: ds).all Char.isDigit
  | _ => false

/-- The slots that requests to a new layout got, and the layout after them, are without aliases. -/
structure Unaliased (requests : List SlotRequest) (slots : List Nat) (l : Layout) : Prop where
  answered : slots.length = requests.length
  /-- A temporary gets a slot that no earlier request got. -/
  temp_new : ∀ i j : Nat, requests[i]? = some .temp → j < i → slots[j]? ≠ slots[i]?
  /-- Equal names get one slot, and different names different ones. -/
  named_iff : ∀ (i j : Nat) (name other : String), requests[i]? = some (.named name) →
    requests[j]? = some (.named other) → (slots[i]? = slots[j]? ↔ name = other)
  /-- No slot is both a temporary and a named one. -/
  temp_ne_named : ∀ (i j : Nat) (name : String), requests[i]? = some .temp →
    requests[j]? = some (.named name) → slots[i]? ≠ slots[j]?
  /-- The slot of a name is listed under this name. -/
  name_eq : ∀ (i : Nat) (name : String), requests[i]? = some (.named name) →
    slots[i]?.bind l.name? = some name
  /-- The slots of earlier requests are the ones that these got at their time, and the slots that
  there were then have kept their names. -/
  kept : ∀ earlier later, requests = earlier ++ later →
    (serveAll {} earlier).1 = slots.take earlier.length ∧
      ∀ slot name, (serveAll {} earlier).2.name? slot = some name → l.name? slot = some name
  size_eq : l.size = slots.toFinset.card
  /-- Each slot is found by its name. -/
  found : ∀ slot < l.size, (l.name? slot).bind l.find? = some slot

/-! ## Generated names -/

theorem toList_tempName (n : Nat) :
    (tempName n).toList = ':' :: 't' :: 'm' :: 'p' :: Nat.toDigits 10 n := by
  have hnonneg : ¬ (n : Int) < 0 := by omega
  rw [tempName, Number.intText, if_neg hnonneg]
  simp

theorem isTempName_tempName (n : Nat) : isTempName (tempName n) = true := by
  unfold isTempName
  rw [toList_tempName]
  have hdigits := Number.all_isDigit_toDigits n
  cases hd : Nat.toDigits 10 n with
  | nil => exact absurd hd Nat.toDigits_ne_nil
  | cons d ds => rwa [hd] at hdigits

theorem tempName_inj {m n : Nat} (h : tempName m = tempName n) : m = n := by
  have hlist := congrArg String.toList h
  rw [toList_tempName, toList_tempName] at hlist
  have hdigits : Nat.toDigits 10 m = Nat.toDigits 10 n := by simpa using hlist
  rw [← Number.digitsValue_toDigits m, hdigits, Number.digitsValue_toDigits]

/-! ## Slots and names -/

variable {l l' : Layout} {slot : Nat} {name : String}

theorem lt_size_of_name? (h : l.name? slot = some name) : slot < l.size :=
  (Array.getElem?_eq_some_iff.1 h).1

theorem exists_name?_of_lt (h : slot < l.size) : ∃ name, l.name? slot = some name :=
  ⟨_, Array.getElem?_eq_getElem h⟩

theorem name?_of_find? (h : l.find? name = some slot) : l.name? slot = some name := by
  obtain ⟨hlt, hname, -⟩ := Array.findIdx?_eq_some_iff_getElem.1 h
  rw [name?, Array.getElem?_eq_getElem hlt, beq_iff_eq.1 hname]

theorem ne_of_find?_eq_none {other : String} (h : l.find? name = none)
    (hother : l.name? slot = some other) : other ≠ name := by
  have hne := Array.findIdx?_eq_none_iff.1 h other (Array.mem_of_getElem? hother)
  simpa using hne

theorem find?_eq_none_of_ne (h : ∀ slot, l.name? slot ≠ some name) : l.find? name = none := by
  cases hf : l.find? name with
  | none => rfl
  | some slot => exact absurd (name?_of_find? hf) (h slot)

/-- A new name stands in the slot after all others. -/
theorem name?_of_push (h : l'.names = l.names.push name) (slot : Nat) :
    l'.name? slot = if slot = l.size then some name else l.name? slot := by
  rw [name?, h, Array.getElem?_push]
  rfl

/-- The slots before it keep their names. -/
theorem name?_push_of_some {new : String} (hl' : l'.names = l.names.push new)
    (h : l.name? slot = some name) : l'.name? slot = some name := by
  rw [name?_of_push hl', if_neg (Nat.ne_of_lt (lt_size_of_name? h)), h]

/-- No two slots have one name. -/
def Distinct (l : Layout) : Prop :=
  ∀ slot other name, l.name? slot = some name → l.name? other = some name → slot = other

theorem Distinct.find? (hd : l.Distinct) (h : l.name? slot = some name) :
    l.find? name = some slot := by
  cases hf : l.find? name with
  | none => exact absurd rfl (ne_of_find?_eq_none hf h)
  | some other => rw [hd slot other name h (name?_of_find? hf)]

theorem Distinct.push (hd : l.Distinct) (hnew : l.find? name = none)
    (hl' : l'.names = l.names.push name) : l'.Distinct := by
  intro slot other x hslot hother
  rw [name?_of_push hl'] at hslot hother
  split at hslot <;> split at hother
  · omega
  · obtain rfl := Option.some.inj hslot
    exact absurd rfl (ne_of_find?_eq_none hnew hother)
  · obtain rfl := Option.some.inj hother
    exact absurd rfl (ne_of_find?_eq_none hnew hslot)
  · exact hd slot other x hslot hother

/-! ## One more request -/

/-- A name under which a request is served: the name itself, or a generated one. -/
def Fits (name : String) : SlotRequest → Prop
  | .named asked => asked = name
  | .temp => isTempName name = true

/-- What holds of a layout after the requests of `log`, which are listed with the slots that they
got. -/
structure Serves (l : Layout) (log : List (SlotRequest × Nat)) : Prop where
  distinct : l.Distinct
  /-- The names of the temporaries to come are still new. -/
  ahead : ∀ n, l.temps ≤ n → l.find? (tempName n) = none
  name : ∀ e ∈ log, ∃ name, l.name? e.2 = some name ∧ Fits name e.1
  fresh : log.Pairwise fun a b => b.1 = .temp → a.2 ≠ b.2
  handed : ∀ slot < l.size, slot ∈ log.map Prod.snd

namespace Serves

variable {log : List (SlotRequest × Nat)}

theorem new : Serves {} [] := by
  refine ⟨?_, fun n _ => ?_, ?_, .nil, ?_⟩
  · intro slot other name hslot
    exact absurd (lt_size_of_name? hslot) (Nat.not_lt_zero slot)
  · exact find?_eq_none_of_ne fun slot hslot =>
      absurd (lt_size_of_name? hslot) (Nat.not_lt_zero slot)
  · intro e he
    cases he
  · intro slot hslot
    exact absurd hslot (Nat.not_lt_zero slot)

theorem lt_size (h : l.Serves log) {e : SlotRequest × Nat} (he : e ∈ log) : e.2 < l.size := by
  obtain ⟨name, hname, -⟩ := h.name e he
  exact lt_size_of_name? hname

theorem mem_slots (h : l.Serves log) : slot ∈ log.map Prod.snd ↔ slot < l.size := by
  refine ⟨fun hm => ?_, h.handed slot⟩
  obtain ⟨e, he, rfl⟩ := List.mem_map.1 hm
  exact h.lt_size he

/-- A temporary has a slot that no request before it got. -/
theorem ne_of_temp (h : l.Serves log) {i j : Nat} {e : SlotRequest × Nat}
    (hi : log[i]? = some (.temp, slot)) (hj : log[j]? = some e) (hji : j < i) : e.2 ≠ slot := by
  obtain ⟨hilt, hi⟩ := List.getElem?_eq_some_iff.1 hi
  obtain ⟨hjlt, rfl⟩ := List.getElem?_eq_some_iff.1 hj
  have hne := List.pairwise_iff_getElem.1 h.fresh j i hjlt hilt hji
  rw [hi] at hne
  exact hne rfl

/-- A name that has a slot is asked for once more. -/
theorem again (h : l.Serves log) (hfind : l.find? name = some slot) :
    l.Serves (log ++ [(.named name, slot)]) := by
  refine ⟨h.distinct, h.ahead, ?_, ?_, ?_⟩
  · intro e he
    rcases List.mem_append.1 he with he | he
    · exact h.name e he
    · obtain rfl := List.mem_singleton.1 he
      exact ⟨name, name?_of_find? hfind, rfl⟩
  · refine List.pairwise_append.2 ⟨h.fresh, List.pairwise_singleton _ _, ?_⟩
    intro a _ b hb htemp
    obtain rfl := List.mem_singleton.1 hb
    cases htemp
  · intro s hs
    rw [List.map_append]
    exact List.mem_append_left _ (h.handed s hs)

/-- A request is given the slot after all others, under a name that is new. -/
theorem push (h : l.Serves log) {r : SlotRequest} (hnew : l.find? name = none)
    (hl' : l'.names = l.names.push name)
    (hahead : ∀ n, l'.temps ≤ n → l.temps ≤ n ∧ tempName n ≠ name) (hfits : Fits name r) :
    l'.Serves (log ++ [(r, l.size)]) := by
  refine ⟨h.distinct.push hnew hl', ?_, ?_, ?_, ?_⟩
  · intro n hn
    obtain ⟨hle, hne⟩ := hahead n hn
    refine find?_eq_none_of_ne fun s hs => ?_
    rw [name?_of_push hl'] at hs
    split at hs
    · exact hne (Option.some.inj hs).symm
    · exact ne_of_find?_eq_none (h.ahead n hle) hs rfl
  · intro e he
    rcases List.mem_append.1 he with he | he
    · obtain ⟨x, hx, hfits⟩ := h.name e he
      exact ⟨x, name?_push_of_some hl' hx, hfits⟩
    · obtain rfl := List.mem_singleton.1 he
      refine ⟨name, ?_, hfits⟩
      rw [name?_of_push hl', if_pos rfl]
  · refine List.pairwise_append.2 ⟨h.fresh, List.pairwise_singleton _ _, ?_⟩
    intro a ha b hb _
    obtain rfl := List.mem_singleton.1 hb
    exact Nat.ne_of_lt (h.lt_size ha)
  · intro s hs
    rw [size, hl', Array.size_push] at hs
    rw [List.map_append]
    rcases Nat.lt_or_eq_of_le (Nat.le_of_lt_succ hs) with hlt | rfl
    · exact List.mem_append_left _ (h.handed s hlt)
    · exact List.mem_append_right _ List.mem_cons_self

/-- One more request: a name is found or new, and a temporary gets the next generated name. -/
theorem serve (h : l.Serves log) (r : SlotRequest)
    (hr : ∀ name, r = .named name → isTempName name = false) :
    (l.serve r).2.Serves (log ++ [(r, (l.serve r).1)]) := by
  cases r with
  | named name =>
    have hname := hr name rfl
    simp only [Layout.serve, addSlot]
    cases hf : l.find? name with
    | some slot => exact h.again hf
    | none =>
      -- the name is not of the generated form, so the generated names to come stay new
      refine h.push hf rfl (fun n hn => ⟨hn, ?_⟩) rfl
      rintro rfl
      rw [isTempName_tempName] at hname
      cases hname
  | temp =>
    refine h.push (h.ahead l.temps (Nat.le_refl _)) rfl (fun n hn => ?_)
      (isTempName_tempName l.temps)
    have hlt : l.temps < n := hn
    exact ⟨Nat.le_of_lt hlt, fun he => Nat.ne_of_gt hlt (tempName_inj he)⟩

theorem serveAll (h : l.Serves log) (requests : List SlotRequest)
    (hr : ∀ name, .named name ∈ requests → isTempName name = false) :
    (l.serveAll requests).2.Serves (log ++ requests.zip (l.serveAll requests).1) := by
  -- on the requests still to come; the log takes up those that are served
  induction requests generalizing l log with
  | nil => simpa [Layout.serveAll] using h
  | cons r rs ih =>
    have hstep := h.serve r fun name he => hr name (he ▸ List.mem_cons_self)
    have hrest := ih hstep fun name hm => hr name (List.mem_cons_of_mem r hm)
    rwa [List.append_assoc] at hrest

end Serves

/-! ## All requests -/

theorem length_serveAll (l : Layout) (requests : List SlotRequest) :
    (l.serveAll requests).1.length = requests.length := by
  induction requests generalizing l with
  | nil => rfl
  | cons r rs ih => exact congrArg (· + 1) (ih (l.serve r).2)

theorem serveAll_append (l : Layout) (earlier later : List SlotRequest) :
    l.serveAll (earlier ++ later) =
      ((l.serveAll earlier).1 ++ ((l.serveAll earlier).2.serveAll later).1,
        ((l.serveAll earlier).2.serveAll later).2) := by
  induction earlier generalizing l with
  | nil => rfl
  | cons r rs ih => simp only [List.cons_append, serveAll, ih]

theorem name?_serve (h : l.name? slot = some name) (r : SlotRequest) :
    (l.serve r).2.name? slot = some name := by
  cases r with
  | named asked =>
    simp only [serve, addSlot]
    cases l.find? asked with
    | some s => exact h
    | none => exact name?_push_of_some rfl h
  | temp => exact name?_push_of_some rfl h

theorem name?_serveAll (h : l.name? slot = some name) (requests : List SlotRequest) :
    (l.serveAll requests).2.name? slot = some name := by
  induction requests generalizing l with
  | nil => exact h
  | cons r rs ih => exact ih (name?_serve h r)

/-- More requests change neither the slots of the earlier ones nor their names. -/
theorem serveAll_earlier (l : Layout) (earlier later : List SlotRequest) :
    (l.serveAll earlier).1 = (l.serveAll (earlier ++ later)).1.take earlier.length ∧
      ∀ slot name, (l.serveAll earlier).2.name? slot = some name →
        (l.serveAll (earlier ++ later)).2.name? slot = some name := by
  rw [serveAll_append]
  refine ⟨?_, fun slot name h => name?_serveAll h later⟩
  rw [List.take_left' (length_serveAll l earlier)]

/-- The entry of the list of served requests at a place. -/
theorem getElem?_served {requests : List SlotRequest} {slots : List Nat}
    (hlen : slots.length = requests.length) {i : Nat} {r : SlotRequest}
    (hi : requests[i]? = some r) :
    ∃ slot, slots[i]? = some slot ∧ (requests.zip slots)[i]? = some (r, slot) := by
  obtain ⟨hlt, -⟩ := List.getElem?_eq_some_iff.1 hi
  have hslot : slots[i]? = some slots[i] := List.getElem?_eq_getElem (hlen ▸ hlt)
  exact ⟨slots[i], hslot, List.getElem?_zip_eq_some.2 ⟨hi, hslot⟩⟩

/-- Requests to a new layout are served without aliases, if none of them asks for a name of the form
of the generated ones: a temporary gets a slot that no earlier request got, a name the same slot
each time and another one than every other name, no temporary shares a slot with a name, what was
handed out stays as it is, and the layout has as many slots as were handed out, each of which is
found by its name. -/
theorem serveAll_unaliased (requests : List SlotRequest)
    (hnames : ∀ name, .named name ∈ requests → isTempName name = false) :
    Unaliased requests (serveAll {} requests).1 (serveAll {} requests).2 := by
  have hlen := length_serveAll {} requests
  have h := Serves.new.serveAll requests hnames
  rw [List.nil_append] at h
  have hname : ∀ (i : Nat) (name : String), requests[i]? = some (.named name) →
      ∃ slot, (serveAll {} requests).1[i]? = some slot ∧
        (serveAll {} requests).2.name? slot = some name := by
    intro i name hi
    obtain ⟨slot, hslot, he⟩ := getElem?_served hlen hi
    obtain ⟨x, hx, rfl⟩ := h.name _ (List.mem_of_getElem? he)
    exact ⟨slot, hslot, hx⟩
  refine
    { answered := hlen, temp_new := ?temp_new, named_iff := ?named_iff
      temp_ne_named := ?temp_ne_named, name_eq := ?name_eq, kept := ?kept, size_eq := ?size_eq
      found := ?found }
  case temp_new =>
    intro i j hi hji
    obtain ⟨slot, hslot, he⟩ := getElem?_served hlen hi
    have hj : j < requests.length := Nat.lt_trans hji (List.getElem?_eq_some_iff.1 hi).1
    obtain ⟨other, hother, he'⟩ := getElem?_served hlen (List.getElem?_eq_getElem hj)
    rw [hslot, hother]
    exact fun hsame => h.ne_of_temp he he' hji (Option.some.inj hsame)
  case named_iff =>
    intro i j name other hi hj
    obtain ⟨slot, hslot, hx⟩ := hname i name hi
    obtain ⟨slot', hslot', hy⟩ := hname j other hj
    rw [hslot, hslot', Option.some.injEq]
    constructor
    · rintro rfl
      exact Option.some.inj (hx.symm.trans hy)
    · rintro rfl
      exact h.distinct slot slot' name hx hy
  case temp_ne_named =>
    intro i j name hi hj he
    obtain ⟨slot, hslot, hentry⟩ := getElem?_served hlen hi
    obtain ⟨x, hx, htemp⟩ := h.name _ (List.mem_of_getElem? hentry)
    obtain ⟨slot', hslot', hy⟩ := hname j name hj
    rw [hslot, hslot', Option.some.injEq] at he
    subst he
    -- the name of the slot would be generated and asked for
    obtain rfl := Option.some.inj (hx.symm.trans hy)
    have hasked := hnames x (List.mem_of_getElem? hj)
    rw [show isTempName x = true from htemp] at hasked
    cases hasked
  case name_eq =>
    intro i name hi
    obtain ⟨slot, hslot, hx⟩ := hname i name hi
    rw [hslot, Option.bind_some, hx]
  case kept =>
    rintro earlier later rfl
    exact serveAll_earlier {} earlier later
  case size_eq =>
    have hslots : (serveAll {} requests).1.toFinset =
        Finset.range (serveAll {} requests).2.size := by
      ext slot
      rw [List.mem_toFinset, Finset.mem_range, ← h.mem_slots,
        List.map_snd_zip (Nat.le_of_eq hlen)]
    rw [hslots, Finset.card_range]
  case found =>
    intro slot hlt
    obtain ⟨name, hname⟩ := exists_name?_of_lt hlt
    rw [hname, Option.bind_some, h.distinct.find? hname]

/-- A name that is asked for again after a temporary, and the name `:tmp`, which is no generated one
because it has no digits. -/
theorem serveAll_unaliased_between :
    let requests : List SlotRequest := [.named "a", .temp, .named ":tmp", .named "a", .temp]
    (∀ name, .named name ∈ requests → isTempName name = false) ∧
      (serveAll {} requests).1 = [0, 1, 2, 0, 3] ∧
      Unaliased requests (serveAll {} requests).1 (serveAll {} requests).2 := by
  have hnames : ∀ name, .named name ∈ ([.named "a", .temp, .named ":tmp", .named "a", .temp] :
      List SlotRequest) → isTempName name = false := by
    intro name hmem
    simp only [List.mem_cons, SlotRequest.named.injEq, reduceCtorEq, List.not_mem_nil, or_self,
      or_false, false_or] at hmem
    obtain rfl | rfl | rfl := hmem <;> decide
  exact ⟨hnames, by decide +kernel, serveAll_unaliased _ hnames⟩

end Layout

end AdaptiveTree
