import AdaptiveTree.Proofs.Number.Digits
import AdaptiveTree.Proofs.Number.Integer

/-!
# The text of a double as a key

The text of a double is an array index exactly if the double is the integer that the index is
(`parseIndex?_text`). For integers below `10^21` that is plain. The shortest digits of a number that
is not an integer have a fraction (`shortest_fraction`), because a double that is not an integer has
no integer in the interval of what is rounded to it. Those of an integer from `10^21` on denote at
least half of it (`shortest_large`), which is no index.
-/

set_option autoImplicit false

namespace AdaptiveTree.Number

/-! ## Texts with a fraction, and large ones -/

theorem parseIndex?_positional {d : Nat} {k : Int} (s : Bool)
    (h : k < 0 ∨ Key.maxIndex < d * 10 ^ k.toNat) :
    Key.parseIndex? ((if s then "-" else "") ++ positional d k) = none := by
  cases s with
  | true => exact Key.parseIndex?_of_mem (c := '-') (by simp) (by decide)
  | false =>
    cases k with
    | ofNat z =>
      have hlarge : Key.maxIndex < d * 10 ^ z := by
        rcases h with h | h
        · exact absurd h (Int.not_lt.2 (Int.natCast_nonneg z))
        · exact h
      apply Key.parseIndex?_of_large
      simpa [positional, digitsValue_toDigits_append] using hlarge
    | negSucc n => exact Key.parseIndex?_of_mem (c := '.') (by simp [positional]) (by decide)

/-! ## The search for the leading digit -/

/-- The search ends at the guess or below it, or where the number has a digit or below that. -/
theorem leadingExponent_induct {a : Ratio} {P : Int → Prop} (hdown : ∀ p, P p → P (p - 1))
    (hup : ∀ p, a.floorAt p ≠ 0 → P p) (tries : Nat) {p : Int} (hp : P p) :
    P (leadingExponent a tries p) := by
  induction tries generalizing p with
  | zero => exact hp
  | succ tries ih =>
    unfold leadingExponent
    split
    · exact ih (hdown p hp)
    · split
      · rename_i h
        exact ih (hup _ h)
      · exact hp

theorem holds_of_onGrid? {m d : Nat} {q k : Int} (h : onGrid? m q k = some d) :
    (Rounding.of m q).holds (.ofDecimal d k) = true := by
  simp only [onGrid?] at h
  split at h
  · rename_i hboth
    obtain ⟨hdown, hup⟩ := Bool.and_eq_true_iff.1 hboth
    rw [← Option.some.inj h]
    split <;> assumption
  · split at h
    · rwa [← Option.some.inj h]
    · split at h
      · rwa [← Option.some.inj h]
      · cases h

/-- What the search over the grids ends with: digits with a fraction, an integer that is rounded to
the number, or the digits on the last grid. -/
theorem firstGrid_cases (m : Nat) (q : Int) (tries : Nat) (k : Int) :
    (firstGrid m q tries k).2 < 0 ∨
    (∃ c, 0 < c ∧ (Rounding.of m q).holds
      ⟨(firstGrid m q tries k).1 * 10 ^ (firstGrid m q tries k).2.toNat * c, c⟩ = true) ∨
    firstGrid m q tries k = ((Ratio.ofBinary m q).floorAt (k - tries), k - tries) := by
  induction tries generalizing k with
  | zero => simp [firstGrid]
  | succ tries ih =>
    unfold firstGrid
    split
    · rename_i d hd
      have hit := holds_of_onGrid? hd
      unfold Ratio.ofDecimal at hit
      split
      · -- a ten, which may be on the grid of tenths
        rename_i h10
        subst h10
        rcases Int.lt_trichotomy k (-1) with hk | rfl | hk
        · exact .inl (show k + 1 < 0 by omega)
        · exact .inr (.inl ⟨10, by decide, hit⟩)
        · have hpow : 10 * 10 ^ k.toNat = 1 * 10 ^ (k + 1).toNat := by
            rw [show (k + 1).toNat = k.toNat + 1 by omega, Nat.pow_succ]
            omega
          have hneg : (-k).toNat = 0 := by omega
          simp only [Nat.pow_eq, hpow, hneg, Nat.pow_zero] at hit
          exact .inr (.inl ⟨1, by decide, by simpa using hit⟩)
      · rcases Int.lt_or_le k 0 with hk | hk
        · exact .inl hk
        · have hneg : (-k).toNat = 0 := by omega
          simp only [Nat.pow_eq, hneg, Nat.pow_zero] at hit
          exact .inr (.inl ⟨1, by decide, by simpa using hit⟩)
    · have hk : k - 1 - (tries : Int) = k - ((tries + 1 : Nat) : Int) := by omega
      rw [← hk]
      exact ih (k - 1)

/-! ## The interval of what is rounded to a number -/

theorem holds_bounds {r : Rounding} {a : Ratio} (h : r.holds a = true) :
    r.low.num * a.den ≤ a.num * r.low.den ∧ a.num * r.high.den ≤ r.high.num * a.den := by
  unfold Rounding.holds Ratio.below at h
  split at h
  · simp only [Bool.and_eq_true, Bool.not_eq_true', decide_eq_false_iff_not, Nat.not_lt] at h
    exact h
  · simp only [Bool.and_eq_true, decide_eq_true_eq] at h
    exact ⟨Nat.le_of_lt h.1, Nat.le_of_lt h.2⟩

theorem ofBinary_neg (m t : Nat) : Ratio.ofBinary m (-(t : Int)) = ⟨m, 2 ^ t⟩ := by
  simp [Ratio.ofBinary, Nat.one_shiftLeft]

theorem ofBinary_natCast (m t : Nat) : Ratio.ofBinary m (t : Int) = ⟨m * 2 ^ t, 1⟩ := by
  simp [Ratio.ofBinary, Nat.shiftLeft_eq]

/-- The only integer that may be rounded to `m / 2^t` is `m / 2^t` itself. -/
theorem eq_of_holds {m t N c : Nat} (hm : 0 < m) (hc : 0 < c)
    (h : (Rounding.of m (-(t : Int))).holds ⟨N * c, c⟩ = true) : m = N * 2 ^ t := by
  obtain ⟨hlow, hhigh⟩ := holds_bounds h
  have h1 : -(t : Int) - 1 = -((t + 1 : Nat) : Int) := by omega
  have h2 : -(t : Int) - 2 = -((t + 2 : Nat) : Int) := by omega
  have hup : N * 2 ^ t * 2 ≤ 2 * m + 1 := by
    simp only [Rounding.of, h1, ofBinary_neg] at hhigh
    have : N * c * 2 ^ (t + 1) = N * 2 ^ t * 2 * c := by ring
    rw [this] at hhigh
    exact Nat.le_of_mul_le_mul_right hhigh hc
  have hdown : 2 * m ≤ N * 2 ^ t * 2 + 1 := by
    simp only [Rounding.of, h1, h2] at hlow
    split at hlow
    · simp only [ofBinary_neg] at hlow
      have : N * c * 2 ^ (t + 2) = N * 2 ^ t * 4 * c := by ring
      rw [this] at hlow
      have := Nat.le_of_mul_le_mul_right hlow hc
      omega
    · simp only [ofBinary_neg] at hlow
      have : N * c * 2 ^ (t + 1) = N * 2 ^ t * 2 * c := by ring
      rw [this] at hlow
      have := Nat.le_of_mul_le_mul_right hlow hc
      omega
  omega

/-- An integer that is rounded to a large integer is at least half of it. -/
theorem half_le_of_holds {m t N c : Nat} (hm : 0 < m) (hc : 0 < c)
    (h : (Rounding.of m ((t + 2 : Nat) : Int)).holds ⟨N * c, c⟩ = true) :
    m * 2 ^ (t + 2) ≤ 2 * N := by
  obtain ⟨hlow, -⟩ := holds_bounds h
  have h1 : ((t + 2 : Nat) : Int) - 1 = ((t + 1 : Nat) : Int) := by omega
  have h2 : ((t + 2 : Nat) : Int) - 2 = (t : Int) := by omega
  simp only [Rounding.of, h1, h2] at hlow
  split at hlow
  · simp only [ofBinary_natCast, Nat.mul_one] at hlow
    have := Nat.le_of_mul_le_mul_right hlow hc
    have hpow : m * 2 ^ (t + 2) = 4 * m * 2 ^ t := by ring
    have hle : 4 * m * 2 ^ t ≤ 2 * ((4 * m - 1) * 2 ^ t) := by
      rw [← Nat.mul_assoc]
      exact Nat.mul_le_mul_right _ (by omega)
    omega
  · simp only [ofBinary_natCast, Nat.mul_one] at hlow
    have := Nat.le_of_mul_le_mul_right hlow hc
    have hpow : m * 2 ^ (t + 2) = 2 * m * 2 ^ (t + 1) := by ring
    have hle : 2 * m * 2 ^ (t + 1) ≤ 2 * ((2 * m - 1) * 2 ^ (t + 1)) := by
      rw [← Nat.mul_assoc]
      exact Nat.mul_le_mul_right _ (by omega)
    omega

/-! ## Shortest digits -/

/-- The shortest digits of a number that is not an integer have a fraction. -/
theorem shortest_fraction {m t : Nat} (hm : 0 < m) (hlt : m < 9007199254740992)
    (h : scaled? m (-(t : Int)) = none) : (shortest m (-(t : Int))).2 < 0 := by
  have hlog : m.log2 < 53 := (Nat.log2_lt (by omega)).2 hlt
  have hlead : leadingExponent (Ratio.ofBinary m (-(t : Int))) 4
      (((m.log2 : Int) + -(t : Int)) * 30103 / 100000) ≤ 17 := by
    apply leadingExponent_induct (P := fun p => p ≤ 17)
    · intro p hp
      omega
    · intro p hp
      by_contra hgt
      apply hp
      have hpow : 10 ^ 18 ≤ 10 ^ p.toNat := Nat.pow_le_pow_right (by decide) (by omega)
      have hneg : (-p).toNat = 0 := by omega
      have hle : 10 ^ p.toNat ≤ 2 ^ t * 10 ^ p.toNat := Nat.le_mul_of_pos_left _ (Nat.two_pow_pos t)
      simp only [Ratio.floorAt, ofBinary_neg, Nat.pow_eq, hneg, Nat.pow_zero, Nat.mul_one]
      exact Nat.div_eq_of_lt (by omega)
    · omega
  unfold shortest
  rcases firstGrid_cases m (-(t : Int)) 18 _ with hneg | ⟨c, hc, hit⟩ | hlast
  · exact hneg
  · rw [eq_of_holds hm hc hit, scaled?_mul_pow] at h
    cases h
  · rw [hlast]
    omega

/-- The guess for the leading digit is not far too high. -/
theorem ten_pow_guess {L g : Nat} (hL : L ≤ 1023) (hg : g * 100000 ≤ L * 30103) :
    10 ^ g ≤ 2 ^ (L + 5) := by
  rw [← Nat.pow_le_pow_iff_left (show 3 ≠ 0 by decide)]
  calc (10 ^ g) ^ 3 = 1000 ^ g := by rw [← Nat.pow_mul, Nat.mul_comm, Nat.pow_mul]
    _ ≤ 1024 ^ g := Nat.pow_le_pow_left (by decide) g
    _ = 2 ^ (10 * g) := by rw [Nat.pow_mul]
    _ ≤ 2 ^ ((L + 5) * 3) := Nat.pow_le_pow_right (by decide) (by omega)
    _ = (2 ^ (L + 5)) ^ 3 := by rw [Nat.pow_mul]

theorem floorAt_natCast (m t : Nat) {p : Int} (hp : 0 ≤ p) :
    (Ratio.ofBinary m (t : Int)).floorAt p = m * 2 ^ t / 10 ^ p.toNat := by
  have hneg : (-p).toNat = 0 := by omega
  simp [Ratio.floorAt, ofBinary_natCast, hneg]

/-- The last grid of a large integer has a step of at most half of the integer. -/
theorem lastGrid_step {m t : Nat} (hm : 0 < m) (hlt : m < 9007199254740992) (ht : t ≤ 971) {p : Int}
    (hp : leadingExponent (Ratio.ofBinary m (t : Int)) 4
      (((m.log2 : Int) + (t : Int)) * 30103 / 100000) = p) :
    p < 18 ∨ 2 * 10 ^ (p - 18).toNat ≤ m * 2 ^ t := by
  have hlog : m.log2 < 53 := (Nat.log2_lt (by omega)).2 hlt
  rw [← hp]
  apply leadingExponent_induct (P := fun p => p < 18 ∨ 2 * 10 ^ (p - 18).toNat ≤ m * 2 ^ t)
  · rintro p (hp | hp)
    · exact .inl (by omega)
    · have hpow : 10 ^ (p - 1 - 18).toNat ≤ 10 ^ (p - 18).toNat :=
        Nat.pow_le_pow_right (by decide) (by omega)
      exact .inr (by omega)
  · intro p hp
    rcases Int.lt_or_le p 18 with h18 | h18
    · exact .inl h18
    · rw [floorAt_natCast m t (by omega)] at hp
      have hle : 10 ^ p.toNat ≤ m * 2 ^ t := by
        by_contra hgt
        exact hp (Nat.div_eq_of_lt (by omega))
      have hsplit : 10 ^ p.toNat = 10 ^ (p - 18).toNat * 10 ^ 18 := by
        rw [← Nat.pow_add]
        congr 1
        omega
      exact .inr (by omega)
  · obtain ⟨g, hg⟩ : ∃ g : Nat, ((m.log2 : Int) + (t : Int)) * 30103 / 100000 = g :=
      ⟨((m.log2 + t) * 30103 / 100000 : Nat), by omega⟩
    rw [hg]
    rcases Nat.lt_or_ge g 18 with h18 | h18
    · exact .inl (by omega)
    · right
      have hpow := ten_pow_guess (L := m.log2 + t) (g := g) (by omega) (by omega)
      have hself : 2 ^ (m.log2 + t) ≤ m * 2 ^ t := by
        rw [Nat.pow_add]
        exact Nat.mul_le_mul_right _ (Nat.log2_self_le (by omega))
      have hsplit : 10 ^ g = 10 ^ ((g : Int) - 18).toNat * 10 ^ 18 := by
        rw [← Nat.pow_add]
        congr 1
        omega
      rw [Nat.pow_add] at hpow
      omega

/-- The shortest digits of an integer from `10^21` on are no index. -/
theorem shortest_large {m t : Nat} (hm : 0 < m) (hlt : m < 9007199254740992) (ht : t ≤ 971)
    (hn : digitLimit ≤ m * 2 ^ t) :
    (shortest m (t : Int)).2 < 0 ∨
      Key.maxIndex < (shortest m (t : Int)).1 * 10 ^ (shortest m (t : Int)).2.toNat := by
  unfold digitLimit at hn
  -- half of the integer is still no index
  have hhalf : ∀ N, m * 2 ^ t ≤ 2 * N → Key.maxIndex < N := fun N hN => by
    unfold Key.maxIndex
    omega
  obtain ⟨u, rfl⟩ : ∃ u, t = u + 2 := by
    refine ⟨t - 2, ?_⟩
    by_contra hne
    have : m * 2 ^ t ≤ m * 2 ^ 1 :=
      Nat.mul_le_mul_left _ (Nat.pow_le_pow_right (by decide) (by omega))
    omega
  simp only [shortest]
  generalize hp : leadingExponent (Ratio.ofBinary m ((u + 2 : Nat) : Int)) 4 _ = p
  rcases firstGrid_cases m ((u + 2 : Nat) : Int) 18 p with hneg | ⟨c, hc, hit⟩ | hlast
  · exact .inl hneg
  · exact .inr (hhalf _ (half_le_of_holds hm hc hit))
  · simp only [hlast]
    rcases Int.lt_or_le (p - (18 : Nat)) 0 with hneg | hnonneg
    · exact .inl hneg
    · right
      apply hhalf
      rcases lastGrid_step hm hlt ht hp with hstep | hstep
      · omega
      · rw [floorAt_natCast _ _ hnonneg]
        have hdiv := Nat.div_add_mod' (m * 2 ^ (u + 2)) (10 ^ (p - (18 : Nat)).toNat)
        have hmod := Nat.mod_lt (m * 2 ^ (u + 2)) (Nat.pow_pos (n := (p - (18 : Nat)).toNat)
          (show 0 < 10 by decide))
        have hcast : (p - 18).toNat = (p - (18 : Nat)).toNat := rfl
        rw [hcast] at hstep
        omega

/-! ## The text of a double -/

/-- A finite number with a fraction has a negative exponent. -/
theorem scaled?_eq_none {m : Nat} {e : Int} (h : scaled? m e = none) :
    0 < m ∧ ∃ t : Nat, e = -(t : Int) := by
  unfold scaled? at h
  split at h
  · cases h
  · rename_i t
    split at h
    · cases h
    · rename_i hmod
      refine ⟨?_, t + 1, rfl⟩
      rcases Nat.eq_zero_or_pos m with rfl | hm
      · simp at hmod
      · exact hm

/-- The shortest digits of a double, written out, are no index. -/
theorem parseIndex?_shortest {d : Float} {s : Bool} {m : Nat} {e : Int}
    (he : exact d = .dyadic s m e) (h : ∀ n, scaled? m e = some n → digitLimit ≤ n) :
    Key.parseIndex? ((if s then "-" else "") ++ positional (shortest m e).1 (shortest m e).2) =
      none := by
  apply parseIndex?_positional
  rcases unpack_of_exact he with ⟨rfl, -⟩ | ⟨hm, hu⟩
  · cases hs : scaled? 0 e with
    | none => exact absurd (scaled?_eq_none hs).1 (Nat.lt_irrefl 0)
    | some n =>
      have hn := h n hs
      unfold digitLimit at hn
      rcases scaled?_eq_some hs with ⟨k, -, rfl⟩ | ⟨k, -, hk⟩
      · omega
      · have := Nat.le_mul_of_pos_right n (Nat.two_pow_pos k)
        omega
  · have hc := unpack_canonical hu
    cases hs : scaled? m e with
    | none =>
      obtain ⟨-, t, rfl⟩ := scaled?_eq_none hs
      exact .inl (shortest_fraction hm hc.lt hs)
    | some n =>
      have hn := h n hs
      rcases scaled?_eq_some hs with ⟨k, rfl, rfl⟩ | ⟨k, rfl, rfl⟩
      · exact shortest_large hm hc.lt (by have := hc.high; omega) hn
      · have hlt := hc.lt
        have := Nat.le_mul_of_pos_right n (Nat.two_pow_pos k)
        unfold digitLimit at hn
        omega

/-- The text of a double is an index exactly if the double is the integer that the index is. -/
theorem parseIndex?_text (d : Float) :
    Key.parseIndex? (text d) =
      (integer? d).bind fun n =>
        if 0 ≤ n ∧ n ≤ Key.maxIndex then some (UInt32.ofNat n.toNat) else none := by
  cases he : exact d with
  | nan =>
    simp only [text, integer?, he]
    rfl
  | infinite s =>
    simp only [text, integer?, he]
    cases s <;> rfl
  | dyadic s m e =>
    rw [integer?_of_exact he]
    simp only [text, he]
    cases hs : scaled? m e with
    | some n =>
      simp only [Option.map_some, Option.bind_some]
      split
      · exact Key.parseIndex?_intText _
      · rename_i hlarge
        rw [parseIndex?_shortest he (by simp only [hs]; rintro _ ⟨⟩; omega), if_neg]
        unfold digitLimit at hlarge
        unfold Key.maxIndex
        split <;> omega
    | none => exact parseIndex?_shortest he (by simp [hs])

end AdaptiveTree.Number
