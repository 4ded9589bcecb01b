import AdaptiveTree.Pattern.Cache
import Mathlib.Data.Finset.Card

/-!
# The pattern cache is transparent

An engine with a cache answers as one without, apart from the identity of handles
(`caching_transparent`). A handle is given again as long as fewer other patterns than the cache can
keep were compiled in the meantime.

The successful requests so far, latest first, are the *log* of an engine. The cache is a function of
the log: of each request it keeps the last answer, and of these the latest ones, as many as it has
room for (`Recalls`). One request keeps this up (`Recalls.compile`), hence all do (`recalls_serve`).
How many entries stand before that of a request is the number of different requests since
(`length_latest`), which decides whether the request is a hit (`lookup_take_latest`).
-/

set_option autoImplicit false

namespace AdaptiveTree.Pattern

/-! ## Logs -/

/-- Successful requests with the handles they were answered with, latest first. -/
abbrev Log : Type := List (Request × Handle Pattern)

namespace Log

/-- The different requests since the last one for `r`. -/
def since (log : Log) (r : Request) : Finset Request :=
  ((log.takeWhile (·.1 != r)).map Prod.fst).toFinset

/-- The last answer to each request, latest first. -/
def latest : Log → Log
  | [] => []
  | x :: log => x :: (latest log).filter (·.1 != x.1)

@[simp] theorem mem_keys_latest {log : Log} {r : Request} :
    r ∈ (latest log).map Prod.fst ↔ r ∈ log.map Prod.fst := by
  induction log with
  | nil => rfl
  | cons x log ih =>
    simp only [latest, List.map_cons, List.mem_cons, ← ih]
    by_cases hr : r = x.1
    · simp [hr]
    · simp only [hr, false_or, List.mem_map, List.mem_filter, bne_iff_ne]
      constructor
      · rintro ⟨y, ⟨hy, -⟩, rfl⟩
        exact ⟨y, hy, rfl⟩
      · rintro ⟨y, hy, rfl⟩
        exact ⟨y, ⟨hy, hr⟩, rfl⟩

/-- Each request has one last answer. -/
theorem nodup_latest (log : Log) : ((latest log).map Prod.fst).Nodup := by
  induction log with
  | nil => exact List.nodup_nil
  | cons x log ih =>
    simp only [latest, List.map_cons, List.nodup_cons]
    refine ⟨?_, ih.sublist (List.filter_sublist.map _)⟩
    simp

theorem length_latest (log : Log) :
    (latest log).length = (log.map Prod.fst).toFinset.card := by
  have hkeys : (log.map Prod.fst).toFinset = ((latest log).map Prod.fst).toFinset := by
    ext r
    rw [List.mem_toFinset, List.mem_toFinset, mem_keys_latest]
  rw [hkeys, List.toFinset_card_of_nodup (nodup_latest log), List.length_map]

/-- Requests that were repeated later do not count any more. -/
theorem latest_append (later earlier : Log) : latest (later ++ earlier) =
    latest later ++ (latest earlier).filter (·.1 ∉ later.map Prod.fst) := by
  induction later with
  | nil => simp [latest]
  | cons x later ih =>
    simp only [List.cons_append, latest, ih, List.filter_append, List.filter_filter]
    congr 2
    refine List.filter_congr fun y _ => Bool.eq_iff_iff.2 ?_
    simp

/-- The log, split at the last request for `r`. -/
theorem split_of_lookup {log : Log} {r : Request} {h : Handle Pattern}
    (hlook : log.lookup r = some h) : ∃ earlier : Log,
    log = log.takeWhile (·.1 != r) ++ (r, h) :: earlier ∧
      r ∉ (log.takeWhile (·.1 != r)).map Prod.fst := by
  induction log with
  | nil => cases hlook
  | cons x log ih =>
    obtain ⟨s, g⟩ := x
    by_cases hs : r = s
    · subst hs
      rw [List.lookup_cons_self] at hlook
      cases hlook
      exact ⟨log, by simp⟩
    · have htake : ((s, g) :: log).takeWhile (·.1 != r) = (s, g) :: log.takeWhile (·.1 != r) :=
        List.takeWhile_cons_of_pos (by simpa using Ne.symm hs)
      rw [List.lookup_cons, beq_false_of_ne hs] at hlook
      obtain ⟨earlier, hlog, hnot⟩ := ih hlook
      refine ⟨earlier, ?_, ?_⟩
      · rw [htake, List.cons_append, ← hlog]
      · rw [htake, List.map_cons, List.mem_cons, not_or]
        exact ⟨hs, hnot⟩

theorem mem_of_lookup {log : Log} {r : Request} {h : Handle Pattern}
    (hlook : log.lookup r = some h) : (r, h) ∈ log := by
  obtain ⟨earlier, hlog, -⟩ := split_of_lookup hlook
  rw [hlog]
  simp

theorem lookup_eq_none {log : Log} {r : Request} (h : r ∉ log.map Prod.fst) :
    log.lookup r = none := by
  rw [List.lookup_eq_none_iff]
  intro x hx
  simpa using fun he : r = x.1 => h (he ▸ List.mem_map_of_mem hx)

/-- Of the last answers, the latest `n` have one to `r` if fewer than `n` different requests were
made since the last one for `r`. -/
theorem lookup_take_latest (log : Log) (r : Request) (n : Nat) :
    ((latest log).take n).lookup r = if (since log r).card < n then log.lookup r else none := by
  have htake : ∀ l : Log, r ∉ l.map Prod.fst → (l.take n).lookup r = none := fun l hl =>
    lookup_eq_none fun hm => hl (List.map_subset _ (List.take_subset _ _) hm)
  cases hlook : log.lookup r with
  | none =>
    have hnot : r ∉ log.map Prod.fst := by
      rw [List.mem_map]
      rintro ⟨x, hx, rfl⟩
      simpa using List.lookup_eq_none_iff.1 hlook x hx
    rw [ite_self, htake _ (by rwa [mem_keys_latest])]
  | some h =>
    -- the entry for `r` stands behind one entry for each request made since
    obtain ⟨earlier, hlog, hnot⟩ := split_of_lookup hlook
    obtain ⟨rest, hlatest⟩ : ∃ rest : Log,
        latest log = latest (log.takeWhile (·.1 != r)) ++ (r, h) :: rest := by
      conv => enter [1, rest, 1]; rw [hlog]
      rw [latest_append, latest, List.filter_cons_of_pos (by simpa using hnot)]
      exact ⟨_, rfl⟩
    have hlen : (latest (log.takeWhile (·.1 != r))).length = (since log r).card :=
      length_latest _
    have hnot' : r ∉ (latest (log.takeWhile (·.1 != r))).map Prod.fst := by
      rwa [mem_keys_latest]
    rw [hlatest, List.take_append, List.lookup_append, htake _ hnot', Option.none_or, hlen]
    split
    · obtain ⟨k, hk⟩ : ∃ k, n - (since log r).card = k + 1 :=
        ⟨n - (since log r).card - 1, by omega⟩
      rw [hk, List.take_succ_cons, List.lookup_cons_self]
    · rw [show n - (since log r).card = 0 by omega, List.take_zero, List.lookup_nil]

/-- Dropping an entry leaves at most one gap, so that one entry more is enough to fill it. -/
theorem take_filter_take {log : Log} (hlog : (log.map Prod.fst).Nodup) (r : Request) (n : Nat) :
    ((log.take (n + 1)).filter (·.1 != r)).take n = (log.filter (·.1 != r)).take n := by
  induction log generalizing n with
  | nil => simp
  | cons x log ih =>
    obtain ⟨hx, hlog⟩ := List.nodup_cons.1 hlog
    rw [List.take_succ_cons]
    by_cases hr : x.1 = r
    · -- the entry is found, and there is no other
      have hkeep : ∀ l : Log, l ⊆ log → (x :: l).filter (·.1 != r) = l := by
        intro l hl
        rw [List.filter_cons_of_neg (by simp [hr])]
        refine List.filter_eq_self.2 fun y hy => ?_
        simpa using fun he : y.1 = r => hx (hr ▸ he ▸ List.mem_map_of_mem (hl hy))
      rw [hkeep _ (List.take_subset _ _), hkeep _ (List.Subset.refl _), List.take_take,
        Nat.min_self]
    · have hcons : ∀ l : Log, (x :: l).filter (·.1 != r) = x :: l.filter (·.1 != r) := fun l =>
        List.filter_cons_of_pos (by simpa using hr)
      rw [hcons, hcons]
      cases n with
      | zero => rfl
      | succ n => rw [List.take_succ_cons, List.take_succ_cons, ih hlog]

end Log

open Log

/-! ## What a cache recalls -/

/-- Adding an answer to the latest ones makes it the latest. -/
theorem Cache.insert_latest {n : Nat} (hn : 0 < n) (log : Log) (r : Request) (h : Handle Pattern) :
    Cache.insert ⟨n, (latest log).take n⟩ r h = ⟨n, (latest ((r, h) :: log)).take n⟩ := by
  obtain ⟨k, rfl⟩ : ∃ k, n = k + 1 := ⟨n - 1, by omega⟩
  simp only [insert, latest, List.take_succ_cons, take_filter_take (nodup_latest log)]

/-- Nothing is pushed out when an entry that is kept becomes the latest. -/
theorem Cache.promote_eq_insert {c : Cache} (hsize : c.entries.length ≤ c.capacity) {r : Request}
    {g : Handle Pattern} (hfind : c.find? r = some g) (h : Handle Pattern) :
    c.promote r h = c.insert r h := by
  have hlt : (c.entries.filter (·.1 != r)).length < c.entries.length :=
    List.length_filter_lt_length_iff_exists.2 ⟨(r, g), mem_of_lookup hfind, by simp⟩
  simp only [promote, insert]
  rw [List.take_of_length_le (by simp only [List.length_cons]; omega)]

/-- The engine keeps the latest `n` of the last answers in its log. All handles in the log have
been numbered, and are what compiling gives. -/
structure Recalls (n : Nat) (e : Engine) (log : Log) : Prop where
  cache : e.cache = some ⟨n, (latest log).take n⟩
  fresh : ∀ x ∈ log, x.2.id < e.fresh
  value : ∀ x ∈ log, Pattern.compile x.1.1 x.1.2 = .ok x.2.value

namespace Recalls

variable {n : Nat} {e : Engine} {log : Log}

/-- A request that is kept is answered with the handle that is kept. -/
theorem hit (h : Recalls n e log) (hn : 0 < n) {r : Request} {g : Handle Pattern}
    (hnear : (since log r).card < n) (hlook : log.lookup r = some g) :
    ∃ e', e.compile r = (.ok g, e') ∧ Recalls n e' ((r, g) :: log) := by
  have hfind : Cache.find? ⟨n, (latest log).take n⟩ r = some g := by
    rw [Cache.find?, lookup_take_latest, if_pos hnear, hlook]
  have hmem := mem_of_lookup hlook
  refine ⟨{ e with cache := some ⟨n, (latest ((r, g) :: log)).take n⟩ }, ?_, rfl, ?_, ?_⟩
  · simp only [Engine.compile, h.cache, hfind]
    rw [Cache.promote_eq_insert (List.length_take_le ..) hfind, Cache.insert_latest hn]
  · exact List.forall_mem_cons.2 ⟨h.fresh _ hmem, h.fresh⟩
  · exact List.forall_mem_cons.2 ⟨h.value _ hmem, h.value⟩

/-- Any other request is compiled, and leaves the engine alone if that fails. -/
theorem miss (h : Recalls n e log) (hn : 0 < n) {r : Request}
    (hmiss : log.lookup r = none ∨ n ≤ (since log r).card) :
    match Pattern.compile r.1 r.2 with
    | .ok p => ∃ e', e.compile r = (.ok ⟨e.fresh, p⟩, e') ∧
        Recalls n e' ((r, ⟨e.fresh, p⟩) :: log)
    | .error why => e.compile r = (.error why, e) := by
  have hfind : Cache.find? ⟨n, (latest log).take n⟩ r = none := by
    rw [Cache.find?, lookup_take_latest]
    obtain hnone | hfar := hmiss
    · rw [hnone, ite_self]
    · rw [if_neg (by omega)]
  simp only [Engine.compile, h.cache, hfind, Engine.compileFresh]
  cases hp : Pattern.compile r.1 r.2 with
  | error why => rfl
  | ok p =>
    refine ⟨_, rfl, ?_, ?_, ?_⟩
    · rw [Option.map_some, Cache.insert_latest hn]
    · exact List.forall_mem_cons.2
        ⟨Nat.lt_succ_self _, fun x hx => Nat.lt_succ_of_lt (h.fresh x hx)⟩
    · exact List.forall_mem_cons.2 ⟨hp, h.value⟩

/-- What a request does: it fails and changes nothing, or its answer is noted. The answer is the
last one to the same request if that is kept, and has a new number otherwise. -/
theorem compile (h : Recalls n e log) (hn : 0 < n) (r : Request) :
    (∃ why, e.compile r = (.error why, e) ∧ Pattern.compile r.1 r.2 = .error why) ∨
      ∃ g e', e.compile r = (.ok g, e') ∧ Recalls n e' ((r, g) :: log) ∧
        (log.lookup r = some g ∧ (since log r).card < n ∨
          (log.lookup r = none ∨ n ≤ (since log r).card) ∧ ∀ x ∈ log, x.2.id ≠ g.id) := by
  by_cases hmiss : log.lookup r = none ∨ n ≤ (since log r).card
  · have hrun := h.miss hn hmiss
    cases hp : Pattern.compile r.1 r.2 with
    | error why =>
      rw [hp] at hrun
      exact .inl ⟨why, hrun, rfl⟩
    | ok p =>
      rw [hp] at hrun
      obtain ⟨e', hrun, hrec⟩ := hrun
      exact .inr ⟨_, e', hrun, hrec, .inr ⟨hmiss, fun x hx => Nat.ne_of_lt (h.fresh x hx)⟩⟩
  · obtain ⟨hsome, hnear⟩ := not_or.1 hmiss
    obtain ⟨g, hlook⟩ := Option.ne_none_iff_exists'.1 hsome
    obtain ⟨e', hrun, hrec⟩ := h.hit hn (Nat.lt_of_not_le hnear) hlook
    exact .inr ⟨g, e', hrun, hrec, .inl ⟨hlook, Nat.lt_of_not_le hnear⟩⟩

/-- A request is answered with what compiling the pattern gives. -/
theorem compile_value (h : Recalls n e log) (hn : 0 < n) (r : Request) :
    (e.compile r).1.map Handle.value = Pattern.compile r.1 r.2 := by
  obtain ⟨why, hrun, hfail⟩ | ⟨g, e', hrun, hrec, -⟩ := h.compile hn r
  · rw [hrun, hfail]
    rfl
  · rw [hrun, hrec.value (r, g) List.mem_cons_self]
    rfl

end Recalls

/-! ## Engines that serve requests -/

/-- Answers requests one after the other, and notes the successful ones in the log. -/
def Engine.serve (e : Engine) (log : Log) : List Request → Engine × Log
  | [] => (e, log)
  | r :: rs =>
    match e.compile r with
    | (.ok h, e) => e.serve ((r, h) :: log) rs
    | (.error _, e) => e.serve log rs

theorem recalls_caching (capacity : Nat) : Recalls (max capacity 1) (.caching capacity) [] where
  cache := by simp [Engine.caching, Cache.empty, latest]
  fresh := by simp
  value := by simp

theorem recalls_serve {n : Nat} (hn : 0 < n) (rs : List Request) {e : Engine} {log : Log}
    (h : Recalls n e log) : Recalls n (e.serve log rs).1 (e.serve log rs).2 := by
  induction rs generalizing e log with
  | nil => exact h
  | cons r rs ih =>
    obtain ⟨why, hrun, -⟩ | ⟨g, e', hrun, hrec, -⟩ := h.compile hn r
    · simp only [Engine.serve, hrun]
      exact ih h
    · simp only [Engine.serve, hrun]
      exact ih hrec

/-- An engine without a cache compiles every pattern anew. -/
theorem Engine.compile_plain {e : Engine} (he : e.cache = none) (r : Request) :
    (e.compile r).1.map Handle.value = Pattern.compile r.1 r.2 ∧ (e.compile r).2.cache = none := by
  simp only [compile, he, compileFresh]
  cases Pattern.compile r.1 r.2 <;> simp [Except.map, he]

theorem Engine.cache_serve_plain (rs : List Request) {e : Engine} (log : Log)
    (he : e.cache = none) : (e.serve log rs).1.cache = none := by
  induction rs generalizing e log with
  | nil => exact he
  | cons r rs ih =>
    have hcache := (compile_plain he r).2
    unfold serve
    split
    · rename_i hrun
      exact ih _ (by rwa [hrun] at hcache)
    · rename_i hrun
      exact ih _ (by rwa [hrun] at hcache)

/-- The cache is a transparent store of the patterns asked for last. After any requests, an engine
that keeps `n` patterns keeps at most `n`, and answers as compiling the pattern does, which is also
how an engine without a cache answers. A request that fails changes nothing. One that succeeds is
answered with the handle of the last success of the same request if and only if fewer than `n`
different requests have succeeded since, and otherwise with a handle that was never given before. -/
theorem caching_transparent (capacity : Nat) (rs : List Request) (r : Request) :
    let n := max capacity 1
    let (e, log) := (Engine.caching capacity).serve [] rs
    let (plain, _) := Engine.plain.serve [] rs
    e.cached ≤ n ∧
      (e.compile r).1.map Handle.value = (plain.compile r).1.map Handle.value ∧
      (e.compile r).1.map Handle.value = Pattern.compile r.1 r.2 ∧
      match e.compile r with
      | (.error _, after) => after = e
      | (.ok h, _) =>
        (∀ last, log.lookup r = some last → (h = last ↔ (since log r).card < n)) ∧
          (log.lookup r = none ∨ n ≤ (since log r).card → ∀ x ∈ log, x.2.same h = false) := by
  have hn : 0 < max capacity 1 := by omega
  have hrec := recalls_serve hn rs (recalls_caching capacity)
  have hplain := (Engine.compile_plain (Engine.cache_serve_plain rs (e := .plain) [] rfl) r).1
  revert hrec hplain
  generalize (Engine.caching capacity).serve [] rs = s
  generalize Engine.plain.serve [] rs = p
  obtain ⟨e, log⟩ := s
  obtain ⟨plain, -⟩ := p
  intro (hrec : Recalls (max capacity 1) e log) hplain
  have hcached : e.cached ≤ max capacity 1 := by
    simp only [Engine.cached, hrec.cache, Option.map_some, Option.getD_some, Cache.size]
    exact List.length_take_le ..
  have hvalue := hrec.compile_value hn r
  refine ⟨hcached, hvalue.trans hplain.symm, hvalue, ?_⟩
  obtain ⟨why, hrun, -⟩ | ⟨g, e', hrun, -, hanswer⟩ := hrec.compile hn r
  · rw [hrun]
  · rw [hrun]
    obtain ⟨hlook, hnear⟩ | ⟨hmiss, hnew⟩ := hanswer
    · refine ⟨fun last hlast => ?_, fun hmiss => ?_⟩
      · rw [hlook] at hlast
        cases hlast
        exact ⟨fun _ => hnear, fun _ => rfl⟩
      · have hfar := hmiss.resolve_left (by rw [hlook]; exact Option.some_ne_none g)
        exact absurd hnear (Nat.not_lt.2 hfar)
    · refine ⟨fun last hlast => ⟨fun he => ?_, fun hnear => ?_⟩, fun _ x hx => ?_⟩
      · exact absurd (he ▸ rfl) (hnew _ (mem_of_lookup hlast))
      · have hfar := hmiss.resolve_left (by rw [hlast]; exact Option.some_ne_none last)
        exact absurd hnear (Nat.not_lt.2 hfar)
      · simpa [Handle.same] using hnew x hx

/-- A cache for one pattern forgets it at the next one; a cache for two does not. -/
example :
    let numbers := fun capacity : Nat =>
      ((Engine.caching capacity).serve [] [("a", ""), ("b", ""), ("a", "")]).2.map (·.2.id)
    numbers 1 = [2, 1, 0] ∧ numbers 2 = [0, 1, 0] := by
  decide +kernel

end AdaptiveTree.Pattern
