import AdaptiveTree.Pattern.Flags
import Mathlib.Data.List.Nodup
import Mathlib.Data.List.Perm.Basic

/-!
# Texts of flags

A text is accepted as flags exactly when it has letters of the six flags only and none of them
twice, and the flags that it sets are those of its letters. So the order of the letters is of no
account, and printing flags puts the letters in order (`parse_distinct_letters`). What is refused is
the first letter that is unknown or stands there again.

The reading goes through the text once. After a part of it the flags are those of the letters of
that part (`addAll_setBy_ok`), or one of them has been refused (`addAll_setBy_error`).
-/

set_option autoImplicit false

namespace AdaptiveTree.Pattern.Flags

/-- The letters of the flags, in the order in which they are printed. -/
def alphabet : List Char := ['g', 'i', 'm', 's', 'u', 'y']

/-- The flags whose letters are in `cs`. -/
def setBy (cs : List Char) : Flags where
  global := cs.contains 'g'
  ignoreCase := cs.contains 'i'
  multiline := cs.contains 'm'
  dotAll := cs.contains 's'
  unicode := cs.contains 'u'
  sticky := cs.contains 'y'

/-- Letters of flags, each at most once. -/
structure Distinct (cs : List Char) : Prop where
  known : ∀ c ∈ cs, c ∈ alphabet
  nodup : cs.Nodup

/-- Why the letter `c` is refused after the letters of `before`: it is no letter of a flag, or it is
there already. -/
inductive Refused (before : List Char) (c : Char) : FlagFault → Prop
  | unknown : c ∉ alphabet → Refused before c (.unknown c)
  | repeated : c ∈ before → Refused before c (.repeated c)

variable {before cs : List Char} {c : Char} {f : Flags} {e : FlagFault}

theorem Distinct.nil : Distinct [] :=
  ⟨nofun, List.nodup_nil⟩

theorem Distinct.of_append (h : Distinct (before ++ cs)) : Distinct before :=
  ⟨fun _ hc => h.known _ (List.mem_append_left _ hc), (List.nodup_append.1 h.nodup).1⟩

theorem Distinct.append_singleton (h : Distinct before) :
    Distinct (before ++ [c]) ↔ c ∈ alphabet ∧ c ∉ before := by
  constructor
  · rintro ⟨hknown, hnodup⟩
    exact ⟨hknown c (by simp), fun hc => (List.nodup_append.1 hnodup).2.2 c hc c (by simp) rfl⟩
  · rintro ⟨hc, hnew⟩
    refine ⟨fun d hd => ?_, ?_⟩
    · rcases List.mem_append.1 hd with hd | hd
      · exact h.known d hd
      · rwa [List.mem_singleton.1 hd]
    · rw [List.nodup_append]
      refine ⟨h.nodup, List.nodup_singleton c, fun d hd d' hd' => ?_⟩
      rw [List.mem_singleton.1 hd']
      exact fun heq => hnew (heq ▸ hd)

/-! ## Reading letters -/

theorem add_unknown (hc : c ∉ alphabet) : f.add c = .error (.unknown c) := by
  unfold add
  split <;> first | rfl | exact absurd (by decide) hc

theorem add_repeated (hc : c ∈ alphabet) (hold : c ∈ before) :
    (setBy before).add c = .error (.repeated c) := by
  simp only [alphabet, List.mem_cons, List.not_mem_nil, or_false] at hc
  rcases hc with rfl | rfl | rfl | rfl | rfl | rfl <;> simp [add, setBy, hold]

theorem add_new (hc : c ∈ alphabet) (hnew : c ∉ before) :
    (setBy before).add c = .ok (setBy (before ++ [c])) := by
  simp only [alphabet, List.mem_cons, List.not_mem_nil, or_false] at hc
  rcases hc with rfl | rfl | rfl | rfl | rfl | rfl <;> simp [add, setBy, hnew]

theorem add_setBy_ok (h : Distinct before) : (setBy before).add c = .ok f ↔
    Distinct (before ++ [c]) ∧ f = setBy (before ++ [c]) := by
  rw [h.append_singleton]
  by_cases hc : c ∈ alphabet
  · by_cases hold : c ∈ before
    · simp [add_repeated hc hold, hold]
    · simp [add_new hc hold, hc, hold, eq_comm]
  · simp [add_unknown hc, hc]

theorem add_setBy_error (h : Distinct before) : (setBy before).add c = .error e ↔
    Refused before c e := by
  by_cases hc : c ∈ alphabet
  · by_cases hold : c ∈ before
    · rw [add_repeated hc hold, Except.error.injEq]
      constructor
      · rintro rfl
        exact .repeated hold
      · rintro (hd | -)
        · exact absurd hc hd
        · rfl
    · rw [add_new hc hold]
      refine iff_of_false nofun ?_
      rintro (hd | hd)
      · exact hd hc
      · exact hold hd
  · rw [add_unknown hc, Except.error.injEq]
    constructor
    · rintro rfl
      exact .unknown hc
    · rintro (- | hd)
      · rfl
      · exact absurd (h.known c hd) hc

/-- Letters are accepted after others exactly when all of them together are distinct. -/
theorem addAll_setBy_ok (h : Distinct before) : (setBy before).addAll cs = .ok f ↔
    Distinct (before ++ cs) ∧ f = setBy (before ++ cs) := by
  induction cs generalizing before with
  | nil =>
    rw [List.append_nil, addAll, Except.ok.injEq]
    exact ⟨fun heq => ⟨h, heq.symm⟩, fun heq => heq.2.symm⟩
  | cons c cs ih =>
    rw [addAll, List.append_cons]
    cases hadd : (setBy before).add c with
    | ok g =>
      obtain ⟨hnext, rfl⟩ := (add_setBy_ok h).1 hadd
      exact ih hnext
    | error e =>
      -- a letter that is refused ends the reading, and no more letters make up for it
      refine iff_of_false nofun fun ⟨hall, _⟩ => ?_
      have hok := (add_setBy_ok h).2 ⟨hall.of_append, rfl⟩
      rw [hadd] at hok
      cases hok

/-- Letters are refused after others at the first one that cannot stand after all those before. -/
theorem addAll_setBy_error (h : Distinct before) : (setBy before).addAll cs = .error e ↔
    ∃ mid c after, cs = mid ++ c :: after ∧ Distinct (before ++ mid) ∧
      Refused (before ++ mid) c e := by
  induction cs generalizing before with
  | nil => simp [addAll]
  | cons c cs ih =>
    rw [addAll]
    cases hadd : (setBy before).add c with
    | ok g =>
      obtain ⟨hnext, rfl⟩ := (add_setBy_ok h).1 hadd
      simp only [ih hnext, List.append_assoc, List.singleton_append]
      constructor
      · rintro ⟨mid, d, after, rfl, hmid, hd⟩
        exact ⟨c :: mid, d, after, rfl, hmid, hd⟩
      · rintro ⟨_ | ⟨c', mid⟩, d, after, hcs, hmid, hd⟩
        · -- the first letter is not the one refused
          obtain ⟨rfl, rfl⟩ := List.cons.inj hcs
          rw [List.append_nil, ← add_setBy_error h, hadd] at hd
          cases hd
        · obtain ⟨rfl, rfl⟩ := List.cons.inj hcs
          exact ⟨mid, d, after, rfl, hmid, hd⟩
    | error e' =>
      constructor
      · rintro heq
        refine ⟨[], c, cs, rfl, by rwa [List.append_nil], ?_⟩
        rw [List.append_nil, ← add_setBy_error h, hadd]
        exact heq
      · rintro ⟨_ | ⟨c', mid⟩, d, after, hcs, hmid, hd⟩
        · obtain ⟨rfl, rfl⟩ := List.cons.inj hcs
          rw [List.append_nil, ← add_setBy_error h, hadd] at hd
          exact hd
        · -- the letters before the refused one include the first, which cannot stand there
          obtain ⟨rfl, rfl⟩ := List.cons.inj hcs
          rw [List.append_cons] at hmid
          have hok := (add_setBy_ok h).2 ⟨hmid.of_append, rfl⟩
          rw [hadd] at hok
          cases hok

/-! ## Printing letters -/

theorem letters_setBy (cs : List Char) : (setBy cs).letters = alphabet.filter (cs.contains ·) := by
  have hpairs : (setBy cs).letters = (alphabet.map fun c => (cs.contains c, c)).filterMap
      fun p => if p.1 then some p.2 else none := rfl
  rw [hpairs, List.filterMap_map, ← List.filterMap_eq_filter]
  rfl

/-- Flags are those of the letters that they are printed with. -/
theorem setBy_letters (f : Flags) : setBy f.letters = f := by
  obtain ⟨g, i, m, s, u, y⟩ := f
  cases g <;> cases i <;> cases m <;> cases s <;> cases u <;> cases y <;> rfl

theorem letters_sublist (f : Flags) : f.letters.Sublist alphabet := by
  rw [← setBy_letters f, letters_setBy]
  exact List.filter_sublist

theorem distinct_letters (f : Flags) : Distinct f.letters :=
  ⟨fun _ hc => f.letters_sublist.subset hc, f.letters_sublist.nodup (by decide)⟩

theorem Distinct.letters_perm (h : Distinct cs) : (setBy cs).letters.Perm cs := by
  rw [List.perm_ext_iff_of_nodup (distinct_letters _).nodup h.nodup]
  intro c
  rw [letters_setBy, List.mem_filter, List.contains_iff_mem]
  exact ⟨fun hc => hc.2, fun hc => ⟨h.known c hc, hc⟩⟩

theorem Distinct.perm {cs' : List Char} (h : Distinct cs) (hp : cs.Perm cs') : Distinct cs' :=
  ⟨fun c hc => h.known c (hp.mem_iff.2 hc), hp.nodup_iff.1 h.nodup⟩

theorem setBy_perm {cs' : List Char} (hp : cs.Perm cs') : setBy cs = setBy cs' := by
  have hcontains : ∀ c, cs.contains c = cs'.contains c := fun c => by
    rw [Bool.eq_iff_iff, List.contains_iff_mem, List.contains_iff_mem, hp.mem_iff]
  simp only [setBy, hcontains]

/-! ## Texts -/

theorem parse_ok {s : String} : parse s = .ok f ↔ Distinct s.toList ∧ f = setBy s.toList :=
  addAll_setBy_ok .nil

/-- A text is accepted as flags exactly when it has letters of flags only and none twice, and sets
the flags of its letters. It is refused for its first letter that is unknown or stands before it in
the text, and the message names that letter. Texts of the same letters are accepted alike. The flags
that a text sets are printed with its letters, in the order of the alphabet, and what flags are
printed as sets them. -/
theorem parse_distinct_letters (s : String) :
    (∀ f, parse s = .ok f ↔ ((∀ c ∈ s.toList, c ∈ alphabet) ∧ s.toList.Nodup) ∧
      f = { global := s.toList.contains 'g', ignoreCase := s.toList.contains 'i',
            multiline := s.toList.contains 'm', dotAll := s.toList.contains 's',
            unicode := s.toList.contains 'u', sticky := s.toList.contains 'y' }) ∧
    (∀ e, parse s = .error e ↔ ∃ before c after, s.toList = before ++ c :: after ∧
      (∀ d ∈ before, d ∈ alphabet) ∧ before.Nodup ∧
      (c ∉ alphabet ∧ e = .unknown c ∧ e.message = "Invalid flag '" ++ c.toString ++ "'" ∨
        c ∈ before ∧ e = .repeated c ∧ e.message = "Repeated flag '" ++ c.toString ++ "'")) ∧
    (∀ t f, s.toList.Perm t.toList → (parse s = .ok f ↔ parse t = .ok f)) ∧
    (∀ f, parse s = .ok f → f.text.toList.Perm s.toList ∧ f.text.toList.Sublist alphabet) ∧
    ∀ f : Flags, parse f.text = .ok f := by
  refine ⟨fun f => ?_, fun e => ?_, fun t f hp => ?_, fun f hf => ?_, fun f => ?_⟩
  · rw [parse_ok]
    exact ⟨fun ⟨h, hf⟩ => ⟨⟨h.known, h.nodup⟩, hf⟩, fun ⟨h, hf⟩ => ⟨⟨h.1, h.2⟩, hf⟩⟩
  · refine (addAll_setBy_error .nil).trans ?_
    constructor
    · rintro ⟨before, c, after, hs, hbefore, hc⟩
      refine ⟨before, c, after, hs, hbefore.known, hbefore.nodup, ?_⟩
      cases hc with
      | unknown hc => exact .inl ⟨hc, rfl, rfl⟩
      | repeated hc => exact .inr ⟨hc, rfl, rfl⟩
    · rintro ⟨before, c, after, hs, hknown, hnodup, ⟨hc, rfl, -⟩ | ⟨hc, rfl, -⟩⟩
      · exact ⟨before, c, after, hs, ⟨hknown, hnodup⟩, .unknown hc⟩
      · exact ⟨before, c, after, hs, ⟨hknown, hnodup⟩, .repeated hc⟩
  · rw [parse_ok, parse_ok, setBy_perm hp]
    exact and_congr_left' ⟨fun h => h.perm hp, fun h => h.perm hp.symm⟩
  · obtain ⟨h, rfl⟩ := parse_ok.1 hf
    rw [text, String.toList_ofList]
    exact ⟨h.letters_perm, letters_sublist _⟩
  · rw [parse_ok, text, String.toList_ofList]
    exact ⟨distinct_letters f, (setBy_letters f).symm⟩

end AdaptiveTree.Pattern.Flags
