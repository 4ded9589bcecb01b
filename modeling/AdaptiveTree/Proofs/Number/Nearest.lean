import AdaptiveTree.Proofs.Number.Inexact

/-!
# Rounding goes to the nearest double

No double is nearer to a natural number than the one it is rounded to, and where another one is as
near, the even mantissa is taken (`isNearest_nearest`). A natural number of more than 53 bits lies
between two doubles that have its leading 53 bits as a mantissa, or one more, and no double is
between them (`le_or_le_of_rational?`); the bits that are cut off say which of the two is nearer
(`rounded_cases`).
-/

set_option autoImplicit false

namespace AdaptiveTree.Number

open Float.Model (Format UnpackedFloat totalExponent)
open Float.Model.UnpackedFloat

/-- The rational number that a double is, if it is finite. -/
def rational? (d : Float) : Option ℚ :=
  match exact d with
  | .dyadic negative m e => some (if negative then -(m * 2 ^ e) else m * 2 ^ e)
  | _ => none

/-- Whether a double is finite with an even mantissa. -/
def isEven (d : Float) : Bool :=
  match exact d with
  | .dyadic _ m _ => m % 2 = 0
  | _ => false

/-- No double is nearer to `x` than `d`, and if another one is as near, then `d` has an even
mantissa. -/
structure IsNearest (x : ℚ) (d : Float) : Prop where
  finite : (rational? d).isSome
  least : ∀ {d' : Float} {v v' : ℚ}, rational? d = some v → rational? d' = some v' →
    |x - v| ≤ |x - v'|
  tie : ∀ {d' : Float} {v v' : ℚ}, rational? d = some v → rational? d' = some v' → v' ≠ v →
    |x - v'| = |x - v| → isEven d = true

/-! ## Doubles that are integers -/

/-- A natural number `m · 2^e` is one also among the rational numbers. -/
theorem scaled?_eq_some_iff {m n : Nat} {e : Int} :
    scaled? m e = some n ↔ (m : ℚ) * 2 ^ e = n := by
  constructor
  · intro h
    rcases scaled?_eq_some h with ⟨k, rfl, rfl⟩ | ⟨k, rfl, rfl⟩
    · push_cast
      rw [zpow_natCast]
    · push_cast
      rw [zpow_neg, zpow_natCast, mul_assoc, mul_inv_cancel₀ (by positivity), mul_one]
  · intro h
    cases e with
    | ofNat k =>
      rw [Int.ofNat_eq_natCast, zpow_natCast] at h
      have hn : m * 2 ^ k = n := by exact_mod_cast h
      rw [scaled?, Nat.shiftLeft_eq, hn]
    | negSucc k =>
      have hm : m = n * 2 ^ (k + 1) := by
        have hpow : (2 : ℚ) ^ (k + 1) ≠ 0 := by positivity
        rw [zpow_negSucc, ← div_eq_mul_inv, div_eq_iff hpow] at h
        exact_mod_cast h
      rw [hm]
      exact scaled?_mul_pow n (k + 1)

/-- The rational number that a double is, if it is an integer. -/
theorem rational?_eq_intCast {d : Float} {n : Int} :
    rational? d = some (n : ℚ) ↔ integer? d = some n := by
  cases hexact : exact d with
  | nan => simp [rational?, integer?, hexact]
  | infinite s => simp [rational?, integer?, hexact]
  | dyadic s m e =>
    have hsize : 0 ≤ (m : ℚ) * 2 ^ e := by positivity
    simp only [rational?, integer?_of_exact hexact, hexact, Option.some.injEq,
      Option.map_eq_some_iff, scaled?_eq_some_iff]
    constructor
    · intro h
      refine ⟨n.natAbs, ?_, ?_⟩
      · rw [Nat.cast_natAbs, Int.cast_abs, ← h]
        cases s <;> simp [abs_of_nonneg hsize]
      · cases s with
        | true =>
          have : (n : ℚ) ≤ 0 := by rw [← h]; simpa using hsize
          have : n ≤ 0 := by exact_mod_cast this
          simp only [if_true]
          omega
        | false =>
          have : (0 : ℚ) ≤ n := by rw [← h]; simpa using hsize
          have : 0 ≤ n := by exact_mod_cast this
          simp only [Bool.false_eq_true, if_false]
          omega
    · rintro ⟨a, ha, rfl⟩
      cases s <;> simp [ha]
/-! ## Rounding bits -/

/-- The bits behind a shifted mantissa: the last that was cut off, and whether there was another
among those before it. -/
theorem shiftRight_succ (m k : Nat) : ExtendedMantissa.mk m false false >>> (k + 1) =
    ⟨m / 2 ^ (k + 1), m / 2 ^ k % 2 != 0, m % 2 ^ k != 0⟩ := by
  induction k with
  | zero =>
    show ExtendedMantissa.shiftRightOne _ = _
    simp [ExtendedMantissa.shiftRightOne, Nat.repeat, Nat.mod_one]
  | succ k ih =>
    have hstep : ExtendedMantissa.mk m false false >>> (k + 1 + 1) =
      (ExtendedMantissa.mk m false false >>> (k + 1)).shiftRightOne := rfl
    have hmod : m % 2 ^ (k + 1) = m % 2 ^ k + 2 ^ k * (m / 2 ^ k % 2) := by
      rw [Nat.pow_succ, Nat.mod_mul]
    rw [hstep, ih, ExtendedMantissa.shiftRightOne]
    congr 1
    · rw [Nat.div_div_eq_div_mul, ← Nat.pow_succ]
    · rw [Bool.eq_iff_iff]
      simp [hmod]
      tauto

/-- A mantissa is rounded by what was cut off: down below half a unit, up above, and to the even
one of both neighbours at half a unit. -/
theorem rounded_cases (m k : Nat) :
    let r := (ExtendedMantissa.mk m false false >>> k).roundedMantissa
    (r = m / 2 ^ k ∧ 2 * (m % 2 ^ k) < 2 ^ k) ∨ (r = m / 2 ^ k + 1 ∧ 2 ^ k < 2 * (m % 2 ^ k)) ∨
      (r = m / 2 ^ k + m / 2 ^ k % 2 ∧ 2 * (m % 2 ^ k) = 2 ^ k) := by
  intro r
  cases k with
  | zero =>
    refine .inl ⟨?_, by simp [Nat.mod_one]⟩
    rw [Nat.pow_zero, Nat.div_one]
    rfl
  | succ k =>
    have hmod : m % 2 ^ (k + 1) = m % 2 ^ k + 2 ^ k * (m / 2 ^ k % 2) := by
      rw [Nat.pow_succ, Nat.mod_mul]
    have hlt : m % 2 ^ k < 2 ^ k := Nat.mod_lt _ (Nat.two_pow_pos k)
    have hr : r = ExtendedMantissa.roundedMantissa
      ⟨m / 2 ^ (k + 1), m / 2 ^ k % 2 != 0, m % 2 ^ k != 0⟩ := by rw [← shiftRight_succ]
    rw [hmod, Nat.pow_succ]
    rcases Nat.mod_two_eq_zero_or_one (m / 2 ^ k) with hbit | hbit <;>
      rcases Nat.eq_zero_or_pos (m % 2 ^ k) with hrest | hrest
    · exact .inl ⟨by rw [hr, hbit, hrest]; rfl, by rw [hbit]; omega⟩
    · exact .inl ⟨by rw [hr, hbit, bne_iff_ne.2 hrest.ne']; rfl, by rw [hbit]; omega⟩
    · exact .inr (.inr ⟨by rw [hr, hbit, hrest]; rfl, by rw [hbit]; omega⟩)
    · exact .inr (.inl ⟨by rw [hr, hbit, bne_iff_ne.2 hrest.ne']; rfl, by rw [hbit]; omega⟩)

/-! ## Doubles around a natural number -/

/-- No double lies between two neighbouring numbers of 53 bits, with any number of zeros behind
them. -/
theorem le_or_le_of_canonical {m q : Nat} {e : Int} (hc : Canonical m e)
    (hq : 4503599627370496 ≤ q) (k : Nat) :
    (m : ℚ) * 2 ^ e ≤ q * 2 ^ k ∨ ((q : ℚ) + 1) * 2 ^ k ≤ m * 2 ^ e := by
  rcases lt_or_ge e k with hlt | hge
  · left
    have hm : (m : ℚ) ≤ 9007199254740992 := by exact_mod_cast hc.lt.le
    have hq' : (4503599627370496 : ℚ) ≤ q := by exact_mod_cast hq
    have hpow : (2 : ℚ) ^ e * 2 ≤ 2 ^ k := by
      rw [← zpow_add_one₀ (by norm_num), ← zpow_natCast]
      exact zpow_le_zpow_right₀ (by norm_num) (by omega)
    have hpos : (0 : ℚ) < 2 ^ e := by positivity
    calc (m : ℚ) * 2 ^ e ≤ 9007199254740992 * 2 ^ e := by gcongr
      _ = 4503599627370496 * (2 ^ e * 2) := by ring
      _ ≤ 4503599627370496 * 2 ^ k := by gcongr
      _ ≤ q * 2 ^ k := by gcongr
  · obtain ⟨j, rfl⟩ := Int.le.dest hge
    have hsplit : (m : ℚ) * 2 ^ ((k : Int) + j) = (m * 2 ^ j : Nat) * 2 ^ k := by
      rw [zpow_add₀ (by norm_num), zpow_natCast, zpow_natCast]
      push_cast
      ring
    rw [hsplit]
    rcases Nat.lt_or_ge q (m * 2 ^ j) with h | h
    · right
      have : (q : ℚ) + 1 ≤ (m * 2 ^ j : Nat) := by exact_mod_cast h
      gcongr
    · left
      have : ((m * 2 ^ j : Nat) : ℚ) ≤ q := by exact_mod_cast h
      gcongr

theorem canonical_of_exact {d : Float} {negative : Bool} {m : Nat} {e : Int}
    (h : exact d = .dyadic negative m e) : m = 0 ∨ Canonical m e := by
  rcases unpack_of_exact h with ⟨h0, -⟩ | ⟨hm, hu⟩
  · exact .inl h0
  · exact .inr (unpack_canonical hu)

theorem le_or_le_of_rational? {d : Float} {v : ℚ} {q : Nat} (hd : rational? d = some v)
    (hq : 4503599627370496 ≤ q) (k : Nat) : v ≤ q * 2 ^ k ∨ ((q : ℚ) + 1) * 2 ^ k ≤ v := by
  have hnonneg : (0 : ℚ) ≤ q * 2 ^ k := by positivity
  unfold rational? at hd
  split at hd
  · rename_i negative m e hexact
    cases hd
    cases negative with
    | true =>
      have hsize : (0 : ℚ) ≤ m * 2 ^ e := by positivity
      exact .inl ((neg_nonpos.2 hsize).trans hnonneg)
    | false =>
      rcases canonical_of_exact hexact with rfl | hc
      · exact .inl (by simp)
      · exact le_or_le_of_canonical hc hq k
  · cases hd

/-! ## The nearest double -/

/-- A double that is the number itself is nearest to it. -/
theorem isNearest_of_eq {x : ℚ} {d : Float} (hd : rational? d = some x) : IsNearest x d where
  finite := by rw [hd]; rfl
  least := by
    intro d' v v' hv _
    rw [hd] at hv
    cases hv
    simp
  tie := by
    intro d' v v' hv _ hne htie
    rw [hd] at hv
    cases hv
    rw [sub_self, abs_zero, abs_eq_zero, sub_eq_zero] at htie
    exact absurd htie.symm hne

theorem rational?_ofInt {n : Int} (hn : FitsDouble n) : rational? (ofInt n) = some (n : ℚ) :=
  rational?_eq_intCast.2 (integer?_ofInt hn)

/-- A mantissa is even if it is so before a carry is dropped. -/
theorem mod_two_of_carry {m j : Nat} (hj : j ≤ 1) (hnorm : 4503599627370496 ≤ m)
    (hhigh : m * 2 ^ j ≤ 9007199254740992) (heven : m * 2 ^ j % 2 = 0) : m % 2 = 0 := by
  rcases Nat.le_one_iff_eq_zero_or_eq_one.1 hj with rfl | rfl
  · simpa using heven
  · omega

/-- A natural number of at least 53 bits is rounded to its leading 53 bits by the others. -/
theorem exact_nearest_large {n : Nat} (hlow : 52 ≤ n.log2) (hhigh : n.log2 ≤ 1022) :
    ∃ m j : Nat, exact (nearest false n 0) = .dyadic false m (j + (n.log2 - 52 : Nat)) ∧
      m * 2 ^ j = (ExtendedMantissa.mk n false false >>> (n.log2 - 52)).roundedMantissa ∧
      4503599627370496 ≤ m ∧ j ≤ 1 := by
  obtain ⟨m, j, hm, hmj, hnorm, hj, hc, hround⟩ :=
    roundWithAccuracy_rounded .positive .exact hlow (e := 0) (by omega) (by omega)
  refine ⟨m, j, ?_, hmj, hnorm, hj⟩
  have htarget : (0 - Format.binary64.targetExponent (totalExponent n 0)).toNat = 0 := by
    rw [targetExponent_eq]
    unfold totalExponent
    omega
  have hrun : nearest false n 0 =
      .ofModel (.pack (roundWithAccuracy Format.binary64 .positive n 0 .exact)) := by
    simp only [nearest, UnpackedFloat.round, decreaseExponent, htarget]
    rfl
  unfold exact
  rw [hrun, hround, unpack_pack_normal _ hm hnorm hc, Int.zero_add, Int.add_comm]
  rfl

/-- How a number `x` between two neighbours `a` and `b` is rounded: to the nearer one, and in the
middle to one that is even. -/
inductive Rounds (a b x : ℚ) (even : Prop) : ℚ → Prop
  | down : x - a < b - x → Rounds a b x even a
  | up : b - x < x - a → Rounds a b x even b
  | middle {v : ℚ} : v = a ∨ v = b → x - a = b - x → even → Rounds a b x even v

/-- What a number is rounded to is as near to it as anything that is not between the neighbours, and
if something else is as near, it is even. -/
theorem Rounds.nearest {a b x v v' : ℚ} {even : Prop} (hv : Rounds a b x even v) (ha : a ≤ x)
    (hb : x ≤ b) (hv' : v' ≤ a ∨ b ≤ v') :
    |x - v| ≤ |x - v'| ∧ (v' ≠ v → |x - v'| = |x - v| → even) := by
  have habove : |x - a| = x - a := abs_of_nonneg (by linarith)
  have hbelow : |x - b| = b - x := by rw [abs_of_nonpos (by linarith), neg_sub]
  have hdist : |x - v'| = x - v' ∧ v' ≤ a ∨ |x - v'| = v' - x ∧ b ≤ v' := by
    rcases hv' with h | h
    · exact .inl ⟨abs_of_nonneg (by linarith), h⟩
    · exact .inr ⟨by rw [abs_of_nonpos (by linarith), neg_sub], h⟩
  cases hv with
  | down hnear =>
    rw [habove]
    rcases hdist with ⟨hd, h⟩ | ⟨hd, h⟩ <;> rw [hd]
    · exact ⟨by linarith, fun hne heq => absurd (by linarith) hne⟩
    · exact ⟨by linarith, fun _ heq => by linarith⟩
  | up hnear =>
    rw [hbelow]
    rcases hdist with ⟨hd, h⟩ | ⟨hd, h⟩ <;> rw [hd]
    · exact ⟨by linarith, fun _ heq => by linarith⟩
    · exact ⟨by linarith, fun hne heq => absurd (by linarith) hne⟩
  | middle hv hmiddle heven =>
    have hhalf : |x - v| = x - a := by
      rcases hv with rfl | rfl
      · exact habove
      · rw [hbelow, hmiddle]
    rw [hhalf]
    refine ⟨?_, fun _ _ => heven⟩
    rcases hdist with ⟨hd, h⟩ | ⟨hd, h⟩ <;> rw [hd] <;> linarith

/-- A natural number of at least 53 bits is rounded to one of the two doubles around it. -/
theorem rounds_nearest_large {n : Nat} (hlow : 52 ≤ n.log2) (hhigh : n.log2 ≤ 1022) :
    ∃ (q k : Nat) (v : ℚ), 4503599627370496 ≤ q ∧ (q : ℚ) * 2 ^ k ≤ n ∧ n ≤ ((q : ℚ) + 1) * 2 ^ k ∧
      rational? (nearest false n 0) = some v ∧
      Rounds (q * 2 ^ k) ((q + 1) * 2 ^ k) n (isEven (nearest false n 0) = true) v := by
  obtain ⟨m, j, hexact, hmj, hnorm, hj⟩ := exact_nearest_large hlow hhigh
  obtain ⟨hq, hq'⟩ := leading_bits hlow
  have hcases := rounded_cases n (n.log2 - 52)
  rw [← hmj] at hcases
  generalize n.log2 - 52 = k at hexact hcases hq hq'
  have hvalue : rational? (nearest false n 0) = some (((m * 2 ^ j : Nat) : ℚ) * 2 ^ k) := by
    unfold rational?
    rw [hexact]
    simp only [Bool.false_eq_true, if_false]
    rw [zpow_add₀ (by norm_num), zpow_natCast, zpow_natCast, ← mul_assoc]
    push_cast
    rfl
  have hlt : ((n % 2 ^ k : Nat) : ℚ) < 2 ^ k := by exact_mod_cast Nat.mod_lt n (Nat.two_pow_pos k)
  have hrest : (0 : ℚ) ≤ (n % 2 ^ k : Nat) := Nat.cast_nonneg _
  have hsplit : (n : ℚ) = (n / 2 ^ k : Nat) * 2 ^ k + (n % 2 ^ k : Nat) := by
    exact_mod_cast (Nat.div_add_mod' n (2 ^ k)).symm
  refine ⟨n / 2 ^ k, k, _, hq, by linarith, by linarith, hvalue, ?_⟩
  rcases hcases with ⟨hr, hhalf⟩ | ⟨hr, hhalf⟩ | ⟨hr, hhalf⟩
  · have hhalf' : 2 * ((n % 2 ^ k : Nat) : ℚ) < 2 ^ k := by exact_mod_cast hhalf
    rw [hr]
    exact .down (by linarith)
  · have hhalf' : 2 ^ k < 2 * ((n % 2 ^ k : Nat) : ℚ) := by exact_mod_cast hhalf
    rw [hr, Nat.cast_add_one]
    exact .up (by linarith)
  · have hhalf' : 2 * ((n % 2 ^ k : Nat) : ℚ) = 2 ^ k := by exact_mod_cast hhalf
    have heven : isEven (nearest false n 0) = true := by
      unfold isEven
      rw [hexact]
      exact decide_eq_true (mod_two_of_carry hj hnorm (by omega) (by omega))
    refine .middle ?_ (by linarith) heven
    rcases Nat.mod_two_eq_zero_or_one (n / 2 ^ k) with hbit | hbit
    · rw [hr, hbit]
      exact .inl rfl
    · rw [hr, hbit, Nat.cast_add_one]
      exact .inr rfl

/-- Rounding a natural number gives the nearest double, unless it is too large for one. -/
theorem isNearest_nearest {n : Nat} (hn : n.log2 ≤ 1022) : IsNearest n (nearest false n 0) := by
  rcases Nat.lt_or_ge n.log2 52 with hsmall | hlarge
  · have hfits : FitsDouble n :=
      Nat.lt_of_lt_of_le Nat.lt_log2_self
        (Nat.pow_le_pow_right (by decide) (by omega : n.log2 + 1 ≤ 53))
    have hexact := rational?_ofInt hfits
    have hofInt : ofInt n = nearest false n 0 := by
      rw [ofInt, decide_eq_false (by omega), Int.natAbs_natCast]
    rw [hofInt, Int.cast_natCast] at hexact
    exact isNearest_of_eq hexact
  · obtain ⟨q, k, v, hq, hbelow, habove, hvalue, hrounds⟩ := rounds_nearest_large hlarge hn
    refine ⟨by rw [hvalue]; rfl, fun hv hv' => ?_, fun hv hv' => ?_⟩
    all_goals
      rw [hvalue] at hv
      obtain rfl := Option.some.inj hv
      have hnear := hrounds.nearest hbelow habove (le_or_le_of_rational? hv' hq k)
    · exact hnear.1
    · exact hnear.2

end AdaptiveTree.Number
