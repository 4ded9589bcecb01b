import AdaptiveTree.Proofs.Number.Arithmetic

/-!
# Arithmetic on integers that is not exact

A product of integers that is `2^53` or more in size is rounded, and so is a quotient that is not an
integer. Rounding keeps 53 bits and goes to one of the two neighbours
(`roundWithAccuracy_neighbour`). So a large product stays large (`integer?_mul_large`), and a
quotient of integers below `2^52` does not become an integer (`integer?_div_fraction`): the integers
are too far from it.

Where a result is a zero with the sign of a negative operand, it is the negative zero
(`mul_ofInt_minusZero`, `div_ofInt_minusZero`, `remainder_ofInt_minusZero`).
-/

set_option autoImplicit false

namespace AdaptiveTree.Number

open Float.Model (Format UnpackedFloat totalExponent)
open Float.Model.UnpackedFloat

/-! ## Rounding to a neighbour -/

theorem shiftRight_mantissa (em : ExtendedMantissa) (k : Nat) :
    (em >>> k).mantissa = em.mantissa / 2 ^ k := by
  change (Nat.repeat ExtendedMantissa.shiftRightOne k em).mantissa = _
  induction k with
  | zero => simp [Nat.repeat]
  | succ k ih =>
    rw [Nat.repeat, ExtendedMantissa.shiftRightOne, ih, Nat.div_div_eq_div_mul, Nat.pow_succ]

theorem mantissa_ofMantissaAndAccuracy (m : Nat) (acc : Accuracy) :
    (ExtendedMantissa.ofMantissaAndAccuracy m acc).mantissa = m := by
  rcases acc with _ | (_ | _ | _) <;> rfl

theorem roundedMantissa_neighbour (em : ExtendedMantissa) :
    em.roundedMantissa = em.mantissa ∨ em.roundedMantissa = em.mantissa + 1 := by
  unfold ExtendedMantissa.roundedMantissa
  rcases em.accuracy with _ | (_ | _ | _)
  · exact .inl rfl
  · exact .inl rfl
  · rcases Nat.mod_two_eq_zero_or_one em.mantissa with h | h
    · exact .inl (by simp [Accuracy.roundToNearestEven, h])
    · exact .inr (by simp [Accuracy.roundToNearestEven, h])
  · exact .inr rfl

/-- The `53` leading bits of a natural number are a full mantissa. -/
theorem leading_bits {m : Nat} (hm : 52 ≤ m.log2) :
    4503599627370496 ≤ m / 2 ^ (m.log2 - 52) ∧ m / 2 ^ (m.log2 - 52) < 9007199254740992 := by
  have h0 : m ≠ 0 := fun h => by simp [h] at hm
  have hpow : ∀ i, 52 ≤ i → 2 ^ i = 2 ^ 52 * 2 ^ (i - 52) := fun i hi => by
    rw [← Nat.pow_add, Nat.add_sub_cancel' hi]
  have hlow : 2 ^ 52 * 2 ^ (m.log2 - 52) ≤ m := by
    rw [← hpow _ hm]
    exact Nat.log2_self_le h0
  have hhigh : m < 2 ^ 53 * 2 ^ (m.log2 - 52) := by
    have h := Nat.lt_log2_self (n := m)
    rw [hpow _ (by omega), show m.log2 + 1 - 52 = m.log2 - 52 + 1 by omega, Nat.pow_succ] at h
    omega
  exact ⟨(Nat.le_div_iff_mul_le (Nat.two_pow_pos _)).2 hlow,
    (Nat.div_lt_iff_lt_mul (Nat.two_pow_pos _)).2 hhigh⟩

/-- A rounded mantissa has 53 bits, or the rounding has carried into one bit more, which is zero and
is dropped. -/
theorem shift_rounded {r : Nat} {e : Int} (hlow : 4503599627370496 ≤ r)
    (hhigh : r ≤ 9007199254740992) (he : -1074 ≤ e) :
    ∃ n j : Nat, n * 2 ^ j = r ∧ j ≤ 1 ∧ 4503599627370496 ≤ n ∧ n < 9007199254740992 ∧
      (shiftToTargetExponent Format.binary64 r e .exact).1.mantissa = n ∧
      (shiftToTargetExponent Format.binary64 r e .exact).2 = e + j := by
  have hshift : (Format.binary64.targetExponent (totalExponent r e) - e).toNat = r.log2 - 52 := by
    have hbits : 52 ≤ r.log2 := (Nat.le_log2 (by omega)).2 hlow
    rw [targetExponent_eq]
    unfold totalExponent
    omega
  simp only [shiftToTargetExponent, shiftToExponent, hshift, shiftRight_mantissa,
    mantissa_ofMantissaAndAccuracy]
  rcases Nat.lt_or_eq_of_le hhigh with hlt | rfl
  · refine ⟨r, 0, by simp, by omega, hlow, hlt, ?_, ?_⟩
    · rw [log2_normal hlow hlt, Nat.sub_self, Nat.pow_zero, Nat.div_one]
    · rw [log2_normal hlow hlt]
  · have hbits : Nat.log2 9007199254740992 = 53 := (Nat.log2_eq_iff (by decide)).2 (by decide)
    refine ⟨4503599627370496, 1, by decide, le_rfl, le_rfl, by decide, ?_, ?_⟩
    · rw [hbits]
      decide
    · rw [hbits]

/-- A mantissa of at least 53 bits is cut to its leading 53 bits and rounded by the others. The
result has the mantissa `n` and `n · 2^j` is the rounded mantissa. -/
theorem roundWithAccuracy_rounded {m : Nat} {e : Int} (s : Sign) (acc : Accuracy)
    (hm : 52 ≤ m.log2) (hlo : -1074 ≤ e) (hhi : e + m.log2 ≤ 1022) :
    ∃ (n j : Nat) (hn : 0 < n),
      n * 2 ^ j = (ExtendedMantissa.ofMantissaAndAccuracy m acc >>>
        (m.log2 - 52)).roundedMantissa ∧
      4503599627370496 ≤ n ∧ j ≤ 1 ∧ Canonical n (e + (m.log2 - 52 : Nat) + j) ∧
      roundWithAccuracy Format.binary64 s m e acc =
        .finite s n (e + (m.log2 - 52 : Nat) + j) hn := by
  obtain ⟨hq, hq'⟩ := leading_bits hm
  have hshift : (Format.binary64.targetExponent (totalExponent m e) - e).toNat = m.log2 - 52 := by
    rw [targetExponent_eq]
    unfold totalExponent
    omega
  have hfirst : shiftToTargetExponent Format.binary64 m e acc =
      (ExtendedMantissa.ofMantissaAndAccuracy m acc >>> (m.log2 - 52),
        e + (m.log2 - 52 : Nat)) := by
    simp only [shiftToTargetExponent, shiftToExponent, hshift]
  have hr := roundedMantissa_neighbour
    (ExtendedMantissa.ofMantissaAndAccuracy m acc >>> (m.log2 - 52))
  rw [shiftRight_mantissa, mantissa_ofMantissaAndAccuracy] at hr
  generalize hrounded : ExtendedMantissa.roundedMantissa
    (ExtendedMantissa.ofMantissaAndAccuracy m acc >>> (m.log2 - 52)) = r at hr ⊢
  obtain ⟨n, j, hnj, hj, hlow, hhigh, hmantissa, hexponent⟩ :=
    shift_rounded (r := r) (e := e + (m.log2 - 52 : Nat)) (by omega) (by omega) (by omega)
  refine ⟨n, j, by omega, hnj, hlow, hj, ⟨hhigh, by omega, by omega, .inl hlow⟩, ?_⟩
  unfold roundWithAccuracy
  simp only [hfirst, hrounded, hmantissa, hexponent]
  rw [dif_neg (by omega)]

/-- A mantissa of at least 53 bits is rounded to one of the two neighbours `r` that its leading 53
bits have. The result has the mantissa `n` with `r = n · 2^j`. -/
theorem roundWithAccuracy_neighbour {m : Nat} {e : Int} (s : Sign) (acc : Accuracy)
    (hm : 52 ≤ m.log2) (hlo : -1074 ≤ e) (hhi : e + m.log2 ≤ 1022) :
    ∃ (r n j : Nat) (hn : 0 < n),
      (r = m / 2 ^ (m.log2 - 52) ∨ r = m / 2 ^ (m.log2 - 52) + 1) ∧ n * 2 ^ j = r ∧
      4503599627370496 ≤ n ∧ Canonical n (e + (m.log2 - 52 : Nat) + j) ∧
      roundWithAccuracy Format.binary64 s m e acc =
        .finite s n (e + (m.log2 - 52 : Nat) + j) hn := by
  obtain ⟨n, j, hn, hnj, hlow, -, hc, hround⟩ := roundWithAccuracy_rounded s acc hm hlo hhi
  have hr := roundedMantissa_neighbour
    (ExtendedMantissa.ofMantissaAndAccuracy m acc >>> (m.log2 - 52))
  rw [shiftRight_mantissa, mantissa_ofMantissaAndAccuracy] at hr
  exact ⟨_, n, j, hn, hr, hnj, hlow, hc, hround⟩

/-! ## The integer of a rounded result -/

/-- The size of the integer that a packed result is, if it is one. -/
theorem integer?_pack {s : Sign} {n : Nat} {e c : Int} (hn : 0 < n)
    (hnorm : 4503599627370496 ≤ n) (hc : Canonical n e)
    (h : integer? (.ofModel (.pack (.finite s n e hn))) = some c) :
    scaled? n e = some c.natAbs := by
  have hexact : exact (.ofModel (.pack (.finite s n e hn))) = .dyadic (isMinus s) n e := by
    unfold exact
    rw [unpack_pack_normal s hn hnorm hc]
  rw [integer?_of_exact hexact, Option.map_eq_some_iff] at h
  obtain ⟨a, ha, rfl⟩ := h
  rw [ha]
  split <;> simp

/-- A natural number `n · 2^(j - g)` times `2^g` is `n · 2^j`. -/
theorem mul_pow_of_scaled? {n j g a : Nat} (h : scaled? n (-(g : Int) + j) = some a) :
    n * 2 ^ j = a * 2 ^ g := by
  rcases scaled?_eq_some h with ⟨k, hk, rfl⟩ | ⟨k, hk, rfl⟩
  · rw [Nat.mul_assoc, ← Nat.pow_add]
    congr 2
    omega
  · rw [Nat.mul_assoc, ← Nat.pow_add]
    congr 2
    omega

/-! ## Products and quotients -/

/-- A product of two integers that is too large is rounded to an integer that is too large. -/
theorem integer?_mul_large {a b c : Int} (ha : FitsDouble a) (hb : FitsDouble b)
    (hlarge : ¬ FitsDouble (a * b)) (h : integer? (ofInt a * ofInt b) = some c) :
    ¬ FitsDouble c := by
  have hab : a * b ≠ 0 := fun h0 => hlarge (by rw [h0]; unfold FitsDouble; decide)
  obtain ⟨ha0, hb0⟩ := Int.mul_ne_zero_iff.1 hab
  obtain ⟨k, hp, hk, hu⟩ := unpack_ofInt ha0 ha
  obtain ⟨l, hq, hl, hv⟩ := unpack_ofInt hb0 hb
  have hsize : 2 ^ 53 ≤ a.natAbs * b.natAbs := by
    unfold FitsDouble at hlarge
    rw [Int.natAbs_mul] at hlarge
    omega
  have hpos : 0 < a.natAbs * b.natAbs := by omega
  have hbits : 53 ≤ (a.natAbs * b.natAbs).log2 := (Nat.le_log2 (by omega)).2 hsize
  have hbits' := log2_mul_le a.natAbs b.natAbs
  have hscale : a.natAbs * 2 ^ k * (b.natAbs * 2 ^ l) = a.natAbs * b.natAbs * 2 ^ (k + l) := by
    ring
  have hlog : (a.natAbs * b.natAbs * 2 ^ (k + l)).log2 =
      (a.natAbs * b.natAbs).log2 + (k + l) := log2_mul_pow hpos _
  have hrun : ofInt a * ofInt b = .ofModel (.pack (UnpackedFloat.mul Format.binary64
    (ofInt a).toModel.unpack (ofInt b).toModel.unpack)) := rfl
  rw [hrun, hu, hv] at h
  simp only [UnpackedFloat.mul, hscale] at h
  obtain ⟨r, n, j, hn, -, -, hnorm, hcanon, hround⟩ :=
    roundWithAccuracy_neighbour (m := a.natAbs * b.natAbs * 2 ^ (k + l))
      (e := -(k : Int) + -(l : Int)) (signOf (decide (a < 0)) * signOf (decide (b < 0))) .exact
      (by omega) (by omega) (by omega)
  rw [hround] at h
  -- the exponent is positive, so the integer is a multiple of the mantissa
  have hscaled := integer?_pack hn hnorm hcanon h
  rcases scaled?_eq_some hscaled with ⟨t, ht, hc⟩ | ⟨t, ht, -⟩
  · have ht1 : 2 ^ 1 ≤ 2 ^ t := Nat.pow_le_pow_right (by decide) (by omega)
    have := Nat.mul_le_mul hnorm ht1
    unfold FitsDouble
    omega
  · omega

/-- The quotient that division rounds, with the bits of its mantissas taken together. -/
theorem quotient_scaled {a b k l : Nat} (hl : l ≤ 52) :
    a * 2 ^ k * 2 ^ 53 / (b * 2 ^ l) = a * 2 ^ (k + 53 - l) / b := by
  rw [← Nat.mul_div_mul_right _ b (Nat.two_pow_pos l), Nat.mul_assoc, Nat.mul_assoc,
    ← Nat.pow_add, ← Nat.pow_add, Nat.sub_add_cancel (by omega)]

/-- The quotient that division rounds has 53 or 54 bits. -/
theorem quotient_bits {a b k l : Nat} (ha : 0 < a) (hb : 0 < b) (hk : a.log2 + k = 52)
    (hl : b.log2 + l = 52) :
    52 ≤ (a * 2 ^ (k + 53 - l) / b).log2 ∧ (a * 2 ^ (k + 53 - l) / b).log2 ≤ 53 := by
  have hfull : ∀ {n i : Nat}, 0 < n → n.log2 + i = 52 → 2 ^ 52 ≤ n * 2 ^ i ∧ n * 2 ^ i < 2 ^ 53 :=
    fun {n i} hn hi => by
      have hlog : (n * 2 ^ i).log2 = 52 := by rw [log2_mul_pow hn, hi]
      exact (Nat.log2_eq_iff (Nat.mul_pos hn (Nat.two_pow_pos i)).ne').1 hlog
  obtain ⟨hA, hA'⟩ := hfull ha hk
  obtain ⟨hB, hB'⟩ := hfull hb hl
  rw [← quotient_scaled (by omega)]
  have hpos : 0 < b * 2 ^ l := by omega
  have hlow : 2 ^ 52 ≤ a * 2 ^ k * 2 ^ 53 / (b * 2 ^ l) := by
    rw [Nat.le_div_iff_mul_le hpos]
    omega
  have hhigh : a * 2 ^ k * 2 ^ 53 / (b * 2 ^ l) < 2 ^ 54 := by
    rw [Nat.div_lt_iff_lt_mul hpos]
    omega
  have hne : a * 2 ^ k * 2 ^ 53 / (b * 2 ^ l) ≠ 0 := by omega
  have hlt := (Nat.log2_lt hne).2 hhigh
  exact ⟨(Nat.le_log2 hne).2 hlow, by omega⟩

/-- Neither neighbour of a fraction `a · 2^g / b` is an integer scaled by `2^g`, if there are more
bits below the point than `b` has: the numerator is at least `2^g` away from `c · b · 2^g`. -/
theorem not_neighbour {a b c g : Nat} (hb : 0 < b) (hdvd : ¬ b ∣ a) (hg : b < 2 ^ g) :
    c * 2 ^ g ≠ a * 2 ^ g / b ∧ c * 2 ^ g ≠ a * 2 ^ g / b + 1 := by
  have hne : a ≠ c * b := fun h => hdvd (h ▸ Nat.dvd_mul_left b c)
  have hfloor : a * 2 ^ g / b * b ≤ a * 2 ^ g := Nat.div_mul_le_self _ _
  have hceil : a * 2 ^ g < (a * 2 ^ g / b + 1) * b := Nat.lt_mul_of_div_lt (Nat.lt_succ_self _) hb
  have hscale : c * 2 ^ g * b = c * b * 2 ^ g := by ring
  constructor
  · intro h
    rw [← h] at hfloor hceil
    rw [Nat.add_mul, Nat.one_mul] at hceil
    rw [hscale] at hfloor hceil
    have hle : c * b ≤ a := Nat.le_of_mul_le_mul_right hfloor (Nat.two_pow_pos g)
    have hgap : (c * b + 1) * 2 ^ g ≤ a * 2 ^ g := Nat.mul_le_mul_right _ (by omega)
    rw [Nat.add_mul, Nat.one_mul] at hgap
    omega
  · intro h
    rw [← h, hscale] at hceil
    have hlt : a < c * b := Nat.lt_of_mul_lt_mul_right hceil
    have hgap : (a + 1) * 2 ^ g ≤ c * b * 2 ^ g := Nat.mul_le_mul_right _ (by omega)
    rw [← hscale, h, Nat.add_mul, Nat.add_mul, Nat.one_mul, Nat.one_mul] at hgap
    omega

theorem quotient_floor {a b f g : Nat} (hg : g ≤ f) :
    a * 2 ^ f / b / 2 ^ (f - g) = a * 2 ^ g / b := by
  rw [Nat.div_div_eq_div_mul, ← Nat.add_sub_cancel' hg, Nat.pow_add, ← Nat.mul_assoc,
    Nat.add_sub_cancel_left, Nat.mul_div_mul_right _ _ (Nat.two_pow_pos _)]

/-- The quotient of two integers is rounded to a neighbour of the fraction. Of its bits, `g` are
below the point, which are more than the divisor has. -/
theorem div_ofInt_neighbour {a b : Int} (ha : a.natAbs < 4503599627370496) (hb : FitsDouble b)
    (ha0 : a ≠ 0) (hb0 : b ≠ 0) :
    ∃ (s : Sign) (n j g : Nat) (e : Int) (hn : 0 < n),
      ofInt a / ofInt b = .ofModel (.pack (.finite s n e hn)) ∧ e = -(g : Int) + j ∧
        4503599627370496 ≤ n ∧ Canonical n e ∧ b.natAbs < 2 ^ g ∧
        (n * 2 ^ j = a.natAbs * 2 ^ g / b.natAbs ∨
          n * 2 ^ j = a.natAbs * 2 ^ g / b.natAbs + 1) := by
  have hapos : 0 < a.natAbs := Int.natAbs_pos.2 ha0
  have hbpos : 0 < b.natAbs := Int.natAbs_pos.2 hb0
  obtain ⟨k, hp, hk, hu⟩ := unpack_ofInt ha0 (by unfold FitsDouble; omega)
  obtain ⟨l, hq, hl, hv⟩ := unpack_ofInt hb0 hb
  have hbits : a.natAbs.log2 < 52 := (Nat.log2_lt (by omega)).2 ha
  have hdiv := divCore_ofInt hapos hbpos hk hl
  obtain ⟨hlow, hhigh⟩ := quotient_bits hapos hbpos hk hl
  generalize accuracyOfFraction _ _ = acc at hdiv
  rw [quotient_scaled (by omega)] at hdiv
  obtain ⟨f, hf⟩ : ∃ f, k + 53 - l = f := ⟨_, rfl⟩
  rw [hf] at hdiv hlow hhigh
  have hrun : ofInt a / ofInt b = .ofModel (.pack (UnpackedFloat.div Format.binary64
    (ofInt a).toModel.unpack (ofInt b).toModel.unpack)) := rfl
  obtain ⟨r, n, j, hn, hr, hnj, hnorm, hcanon, hround⟩ :=
    roundWithAccuracy_neighbour (signOf (decide (a < 0)) / signOf (decide (b < 0))) acc hlow
      (by omega : -1074 ≤ -(f : Int)) (by omega)
  obtain ⟨g, hg, hgf, hgb⟩ : ∃ g, f - g = (a.natAbs * 2 ^ f / b.natAbs).log2 - 52 ∧ g ≤ f ∧
      b.natAbs.log2 < g := ⟨f - ((a.natAbs * 2 ^ f / b.natAbs).log2 - 52), by omega⟩
  rw [← hg, quotient_floor hgf, ← hnj] at hr
  refine ⟨signOf (decide (a < 0)) / signOf (decide (b < 0)), n, j, g, _, hn, ?_, ?_, hnorm,
    hcanon, (Nat.log2_lt hbpos.ne').1 hgb, hr⟩
  · rw [hrun, hu, hv]
    simp only [UnpackedFloat.div, hdiv]
    rw [hround]
  · omega

/-- A quotient of two integers that is not an integer is not rounded to one. -/
theorem integer?_div_fraction {a b : Int} (ha : a.natAbs < 4503599627370496) (hb : FitsDouble b)
    (hb0 : b ≠ 0) (hdvd : ¬ b ∣ a) : integer? (ofInt a / ofInt b) = none := by
  have ha0 : a ≠ 0 := fun h0 => hdvd (h0 ▸ Int.dvd_zero b)
  have hdvd' : ¬ b.natAbs ∣ a.natAbs := fun h => hdvd (Int.natAbs_dvd_natAbs.1 h)
  obtain ⟨s, n, j, g, e, hn, hquot, he, hnorm, hcanon, hgb, hr⟩ :=
    div_ofInt_neighbour ha hb ha0 hb0
  rw [hquot, Option.eq_none_iff_forall_ne_some]
  intro c h
  have hscaled := integer?_pack hn hnorm hcanon h
  rw [he] at hscaled
  have hpoint : n * 2 ^ j = c.natAbs * 2 ^ g := mul_pow_of_scaled? hscaled
  obtain ⟨hne, hne'⟩ := not_neighbour (c := c.natAbs) (Int.natAbs_pos.2 hb0) hdvd' hgb
  rw [hpoint] at hr
  exact hr.elim hne hne'

/-! ## Results without an integer value -/

theorem integer?_nan : integer? nan = none := rfl

theorem integer?_infinity (negative : Bool) : integer? (infinity negative) = none := by
  cases negative <;> rfl

/-- A quotient by zero is infinite or not a number. -/
theorem integer?_div_zero {a : Int} (ha : FitsDouble a) : integer? (ofInt a / ofInt 0) = none := by
  have hrun : ofInt a / ofInt 0 = .ofModel (.pack (UnpackedFloat.div Format.binary64
    (ofInt a).toModel.unpack (ofInt 0).toModel.unpack)) := rfl
  rw [hrun, unpack_ofInt_zero]
  by_cases ha0 : a = 0
  · subst ha0
    rw [unpack_ofInt_zero]
    rfl
  · obtain ⟨k, hp, -, hu⟩ := unpack_ofInt ha0 ha
    rw [hu]
    cases signOf (decide (a < 0)) with
    | negative => exact integer?_infinity true
    | positive => exact integer?_infinity false

theorem remainder_zero {a : Int} (ha : FitsDouble a) : remainder (ofInt a) (ofInt 0) = nan := by
  obtain ⟨k, -, hu⟩ := exact_ofInt ha
  obtain ⟨l, -, hv⟩ := exact_ofInt (n := 0) (by unfold FitsDouble; decide)
  unfold remainder
  simp only [hu, hv, Int.natAbs_zero, Nat.zero_mul, if_true]

/-! ## Negative zero -/

/-- The zero with a minus sign. -/
def minusZero : Float :=
  .ofModel (.pack (.zero .negative))

theorem exact_minusZero : exact minusZero = .dyadic true 0 0 := by
  unfold exact minusZero
  rw [unpack_pack_zero]
  rfl

theorem integer?_minusZero : integer? minusZero = some 0 := by
  rw [integer?_of_exact exact_minusZero]
  rfl

theorem isNegativeZero_minusZero : isNegativeZero minusZero = true := by
  simp [isNegativeZero, exact_minusZero]

theorem isNegativeZero_ofInt {n : Int} (hn : FitsDouble n) : isNegativeZero (ofInt n) = false := by
  obtain ⟨k, -, he⟩ := exact_ofInt hn
  unfold isNegativeZero
  split
  · rename_i hzero
    rw [he, Exact.dyadic.injEq] at hzero
    obtain ⟨hneg, hmantissa, -⟩ := hzero
    have := Nat.two_pow_pos k
    rcases Nat.mul_eq_zero.1 hmantissa with h | h
    · simp only [decide_eq_true_eq] at hneg
      omega
    · omega
  · rfl

/-- The negative zero has the integer value zero. -/
theorem integer?_of_isNegativeZero {d : Float} (h : isNegativeZero d = true) :
    integer? d = some 0 := by
  unfold isNegativeZero at h
  split at h
  · rename_i e he
    have hscaled : scaled? 0 e = some 0 := by cases e <;> simp [scaled?]
    rw [integer?_of_exact he, hscaled]
    rfl
  · cases h

theorem mul_ofInt_minusZero {a b : Int} (ha : FitsDouble a) (hb : FitsDouble b) (hz : a * b = 0)
    (hneg : a < 0 ∨ b < 0) : ofInt a * ofInt b = minusZero := by
  have hrun : ofInt a * ofInt b = .ofModel (.pack (UnpackedFloat.mul Format.binary64
    (ofInt a).toModel.unpack (ofInt b).toModel.unpack)) := rfl
  rw [hrun]
  rcases Int.mul_eq_zero.1 hz with rfl | rfl
  · have hb' : b < 0 := by omega
    obtain ⟨l, hq, -, hv⟩ := unpack_ofInt (by omega) hb
    rw [unpack_ofInt_zero, hv, signOf_of_neg hb']
    rfl
  · have ha' : a < 0 := by omega
    obtain ⟨k, hp, -, hu⟩ := unpack_ofInt (by omega) ha
    rw [unpack_ofInt_zero, hu, signOf_of_neg ha']
    rfl

theorem div_ofInt_minusZero {b : Int} (hb : FitsDouble b) (hneg : b < 0) :
    ofInt 0 / ofInt b = minusZero := by
  have hrun : ofInt 0 / ofInt b = .ofModel (.pack (UnpackedFloat.div Format.binary64
    (ofInt 0).toModel.unpack (ofInt b).toModel.unpack)) := rfl
  obtain ⟨l, hq, -, hv⟩ := unpack_ofInt (by omega) hb
  rw [hrun, unpack_ofInt_zero, hv, signOf_of_neg hneg]
  rfl

theorem remainder_ofInt_minusZero {a b : Int} (ha : FitsDouble a) (hb : FitsDouble b) (hb0 : b ≠ 0)
    (hz : a.tmod b = 0) (hneg : a < 0) : remainder (ofInt a) (ofInt b) = minusZero := by
  have hmod : a.natAbs % b.natAbs = 0 := by
    rw [← Int.natAbs_tmod, hz]
    rfl
  rw [remainder_eq_nearest ha hb hb0, hmod, nearest_zero, decide_eq_true hneg]
  rfl

end AdaptiveTree.Number
