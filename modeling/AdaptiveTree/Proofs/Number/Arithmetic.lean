import AdaptiveTree.Arithmetic
import AdaptiveTree.Proofs.Number.Integer

/-!
# Arithmetic on integers as doubles

The five operations on two doubles that are integers below `2^53` are exact where the result is
again such an integer and not a negative zero (`add_ofInt`, `sub_ofInt`, `mul_ofInt`, `div_ofInt`,
`remainder_ofInt`). So an operator that has a result on integers of 32 bits has the same result on
their doubles (`applyDouble_widen`), and a number keeps its double in whatever representation it
is given (`number_cases`).
-/

set_option autoImplicit false

namespace AdaptiveTree.Number

open Float.Model (Format UnpackedFloat totalExponent)
open Float.Model.UnpackedFloat

/-! ## Signs and scales -/

theorem ofInt_of_sign {n : Int} {s : Bool} (h : s = decide (n < 0)) :
    ofInt n = nearest s n.natAbs 0 := by
  rw [h]
  rfl

theorem apply_signOf (a : Int) (p : Nat) :
    (signOf (decide (a < 0))).apply ((a.natAbs * p : Nat) : Int) = a * p := by
  by_cases h : a < 0
  · have habs : (a.natAbs : Int) = -a := by omega
    simp only [h, decide_true, signOf, if_true, Sign.apply, Int.natCast_mul, habs, Int.neg_mul,
      Int.neg_neg]
  · have habs : (a.natAbs : Int) = a := by omega
    simp only [h, decide_false, signOf, Bool.false_eq_true, if_false, Sign.apply, Int.natCast_mul,
      habs]

theorem signOf_of_neg {a : Int} (h : a < 0) : signOf (decide (a < 0)) = .negative := by
  simp [signOf, h]

theorem signOf_of_nonneg {a : Int} (h : 0 ≤ a) : signOf (decide (a < 0)) = .positive := by
  simp [signOf, h]

theorem signOf_mul {a b : Int} (ha : a ≠ 0) (hb : b ≠ 0) :
    signOf (decide (a * b < 0)) = signOf (decide (a < 0)) * signOf (decide (b < 0)) := by
  rcases Int.lt_or_gt_of_ne ha with ha | ha <;> rcases Int.lt_or_gt_of_ne hb with hb | hb
  · have h := Int.mul_pos_of_neg_of_neg ha hb
    rw [signOf_of_neg ha, signOf_of_neg hb, signOf_of_nonneg (Int.le_of_lt h)]
    rfl
  · have h := Int.mul_neg_of_neg_of_pos ha hb
    rw [signOf_of_neg ha, signOf_of_nonneg (Int.le_of_lt hb), signOf_of_neg h]
    rfl
  · have h := Int.mul_neg_of_pos_of_neg ha hb
    rw [signOf_of_nonneg (Int.le_of_lt ha), signOf_of_neg hb, signOf_of_neg h]
    rfl
  · have h := Int.mul_pos ha hb
    rw [signOf_of_nonneg (Int.le_of_lt ha), signOf_of_nonneg (Int.le_of_lt hb),
      signOf_of_nonneg (Int.le_of_lt h)]
    rfl

theorem signOf_neg {b : Int} (hb : b ≠ 0) :
    signOf (decide (-b < 0)) = -signOf (decide (b < 0)) := by
  rcases Int.lt_or_gt_of_ne hb with h | h
  · rw [signOf_of_neg h, signOf_of_nonneg (by omega)]
    rfl
  · rw [signOf_of_nonneg (Int.le_of_lt h), signOf_of_neg (by omega)]
    rfl

theorem sign_mul_div (s t : Sign) : s * t / s = t := by
  cases s <;> cases t <;> rfl

theorem min_neg_natCast (k l : Nat) : min (-(k : Int)) (-(l : Int)) = -((max k l : Nat) : Int) := by
  omega

theorem decreaseExponent_scaled (n : Nat) {k K : Nat} (h : k ≤ K) :
    (decreaseExponent (n * 2 ^ k) (-(k : Int)) (-(K : Int))).1 = n * 2 ^ K := by
  have hk : (-(k : Int) - -(K : Int)).toNat = K - k := by omega
  simp only [decreaseExponent, hk, Nat.shiftLeft_eq]
  rw [Nat.mul_assoc, ← Nat.pow_add, Nat.add_sub_cancel' h]

theorem log2_le_log2_mul (a : Nat) {b : Nat} (hb : 0 < b) : a.log2 ≤ (a * b).log2 := by
  rcases Nat.eq_zero_or_pos a with rfl | ha
  · simp
  · rw [Nat.le_log2 (Nat.mul_ne_zero (by omega) (by omega))]
    exact Nat.le_trans (Nat.log2_self_le (by omega)) (Nat.le_mul_of_pos_right a hb)

theorem log2_mul_le (a b : Nat) : (a * b).log2 ≤ a.log2 + b.log2 + 1 := by
  by_cases h : a * b = 0
  · simp [h]
  · have hlt : a * b < 2 ^ (a.log2 + 1) * 2 ^ (b.log2 + 1) :=
      Nat.mul_lt_mul'' Nat.lt_log2_self Nat.lt_log2_self
    rw [← Nat.pow_add] at hlt
    have := (Nat.log2_lt h).2 hlt
    omega

/-- An integer scaled by a power of two is normalized to the integer. -/
theorem normalize_scaled {r : Int} (hr : FitsDouble r) (K : Nat) :
    Float.ofModel (.pack (UnpackedFloat.normalize Format.binary64 (r * (2 ^ K : Nat)) (-(K : Int))
      .positive)) = ofInt r := by
  have hpos : (0 : Int) < (2 ^ K : Nat) := by exact_mod_cast Nat.two_pow_pos K
  rcases Int.lt_trichotomy r 0 with h | rfl | h
  · have hlt : r * (2 ^ K : Nat) < 0 := Int.mul_neg_of_neg_of_pos h hpos
    have habs : (-(r * (2 ^ K : Nat))).toNat = r.natAbs * 2 ^ K := by
      have : -(r * (2 ^ K : Nat)) = ((r.natAbs * 2 ^ K : Nat) : Int) := by
        rw [Int.natCast_mul, show (r.natAbs : Int) = -r by omega, Int.neg_mul]
      rw [this, Int.toNat_natCast]
    have hcmp : compare (r * (2 ^ K : Nat)) 0 = .lt := Int.compare_eq_lt.2 hlt
    simp only [UnpackedFloat.normalize, hcmp, habs]
    rw [ofInt_of_sign (s := true) (by simp [h])]
    exact nearest_natural hr true K
  · rw [Int.zero_mul]
    exact ofInt_zero.symm
  · have hgt : 0 < r * (2 ^ K : Nat) := Int.mul_pos h hpos
    have habs : (r * (2 ^ K : Nat)).toNat = r.natAbs * 2 ^ K := by
      have : r * (2 ^ K : Nat) = ((r.natAbs * 2 ^ K : Nat) : Int) := by
        rw [Int.natCast_mul, show (r.natAbs : Int) = r by omega]
      rw [this, Int.toNat_natCast]
    have hcmp : compare (r * (2 ^ K : Nat)) 0 = .gt := Int.compare_eq_gt.2 hgt
    simp only [UnpackedFloat.normalize, hcmp, habs]
    rw [ofInt_of_sign (s := false) (by simp; omega)]
    exact nearest_natural hr false K

/-! ## The five operations -/

theorem add_ofInt {a b : Int} (ha : FitsDouble a) (hb : FitsDouble b) (hr : FitsDouble (a + b)) :
    ofInt a + ofInt b = ofInt (a + b) := by
  show Float.ofModel (.pack (UnpackedFloat.add Format.binary64 (ofInt a).toModel.unpack
    (ofInt b).toModel.unpack)) = _
  by_cases ha0 : a = 0
  · subst ha0
    rw [unpack_ofInt_zero, Int.zero_add]
    by_cases hb0 : b = 0
    · subst hb0
      rw [unpack_ofInt_zero]
      exact ofInt_zero.symm
    · obtain ⟨l, hp, -, hu⟩ := unpack_ofInt hb0 hb
      rw [hu]
      exact (eq_ofModel_pack hu).symm
  · obtain ⟨k, hp, -, hu⟩ := unpack_ofInt ha0 ha
    by_cases hb0 : b = 0
    · subst hb0
      rw [unpack_ofInt_zero, Int.add_zero, hu]
      exact (eq_ofModel_pack hu).symm
    · obtain ⟨l, hq, -, hv⟩ := unpack_ofInt hb0 hb
      rw [hu, hv]
      simp only [UnpackedFloat.add, min_neg_natCast,
        decreaseExponent_scaled _ (Nat.le_max_left k l),
        decreaseExponent_scaled _ (Nat.le_max_right k l), apply_signOf, ← Int.add_mul]
      exact normalize_scaled hr _

theorem sub_ofInt {a b : Int} (ha : FitsDouble a) (hb : FitsDouble b) (hr : FitsDouble (a - b)) :
    ofInt a - ofInt b = ofInt (a - b) := by
  show Float.ofModel (.pack (UnpackedFloat.sub Format.binary64 (ofInt a).toModel.unpack
    (ofInt b).toModel.unpack)) = _
  by_cases hb0 : b = 0
  · subst hb0
    rw [unpack_ofInt_zero, Int.sub_zero]
    by_cases ha0 : a = 0
    · subst ha0
      rw [unpack_ofInt_zero]
      exact ofInt_zero.symm
    · obtain ⟨k, hp, -, hu⟩ := unpack_ofInt ha0 ha
      rw [hu]
      exact (eq_ofModel_pack hu).symm
  · obtain ⟨l, hq, hl, hv⟩ := unpack_ofInt hb0 hb
    by_cases ha0 : a = 0
    · subst ha0
      rw [Int.zero_sub] at hr ⊢
      obtain ⟨l', hq', hl', hv'⟩ := unpack_ofInt (n := -b) (by omega) hr
      simp only [Int.natAbs_neg] at hl' hv'
      obtain rfl : l' = l := by omega
      rw [unpack_ofInt_zero, hv, eq_ofModel_pack hv', signOf_neg hb0]
      rfl
    · obtain ⟨k, hp, -, hu⟩ := unpack_ofInt ha0 ha
      rw [hu, hv]
      simp only [UnpackedFloat.sub, min_neg_natCast,
        decreaseExponent_scaled _ (Nat.le_max_left k l),
        decreaseExponent_scaled _ (Nat.le_max_right k l), apply_signOf, ← Int.sub_mul]
      exact normalize_scaled hr _

theorem mul_ofInt {a b : Int} (ha : FitsDouble a) (hb : FitsDouble b) (hr : FitsDouble (a * b))
    (hz : a * b = 0 → 0 ≤ a ∧ 0 ≤ b) : ofInt a * ofInt b = ofInt (a * b) := by
  show Float.ofModel (.pack (UnpackedFloat.mul Format.binary64 (ofInt a).toModel.unpack
    (ofInt b).toModel.unpack)) = _
  by_cases ha0 : a = 0
  · subst ha0
    rw [unpack_ofInt_zero, Int.zero_mul, ofInt_zero]
    by_cases hb0 : b = 0
    · subst hb0
      rw [unpack_ofInt_zero]
      rfl
    · obtain ⟨l, hq, -, hv⟩ := unpack_ofInt hb0 hb
      have hb' := (hz (Int.zero_mul b)).2
      rw [hv, signOf_of_nonneg hb']
      rfl
  · obtain ⟨k, hp, hk, hu⟩ := unpack_ofInt ha0 ha
    by_cases hb0 : b = 0
    · subst hb0
      have ha' := (hz (Int.mul_zero a)).1
      rw [unpack_ofInt_zero, Int.mul_zero, ofInt_zero, hu, signOf_of_nonneg ha']
      rfl
    · obtain ⟨l, hq, hl, hv⟩ := unpack_ofInt hb0 hb
      have hpos : 0 < (a * b).natAbs := by
        have := Int.mul_ne_zero ha0 hb0
        omega
      have hlog : a.natAbs.log2 ≤ (a * b).natAbs.log2 := by
        rw [Int.natAbs_mul]
        exact log2_le_log2_mul _ (by omega)
      have hscale : a.natAbs * 2 ^ k * (b.natAbs * 2 ^ l) = (a * b).natAbs * 2 ^ (k + l) := by
        rw [Int.natAbs_mul]
        ring
      have hexp : -(k : Int) + -(l : Int) = -((k + l : Nat) : Int) := by omega
      rw [hu, hv]
      simp only [UnpackedFloat.mul]
      rw [← signOf_mul ha0 hb0, hscale, hexp, roundWithAccuracy_natural hpos hr _ (by omega)]
      rfl

/-- The quotient that division rounds is found with 53 bits more than the mantissas have. -/
theorem divCore_ofInt {a b k l : Nat} (ha : 0 < a) (hb : 0 < b) (hk : a.log2 + k = 52)
    (hl : b.log2 + l = 52) :
    divCore Format.binary64 (a * 2 ^ k) (-(k : Int)) (b * 2 ^ l) (-(l : Int)) =
      (a * 2 ^ k * 2 ^ 53 / (b * 2 ^ l), -((k + 53 - l : Nat) : Int),
        accuracyOfFraction (a * 2 ^ k * 2 ^ 53 % (b * 2 ^ l)) (b * 2 ^ l)) := by
  have htot : totalExponent (a * 2 ^ k) (-(k : Int)) - totalExponent (b * 2 ^ l) (-(l : Int)) =
      (l : Int) - k := by
    unfold totalExponent
    rw [log2_mul_pow ha, log2_mul_pow hb]
    omega
  have htarget : min (-(k : Int) - -(l : Int))
      (Format.binary64.targetExponent ((l : Int) - k)) = -((k + 53 - l : Nat) : Int) := by
    rw [targetExponent_eq]
    omega
  have hshift : (-(k : Int) - -(l : Int) - -((k + 53 - l : Nat) : Int)).toNat = 53 := by omega
  simp only [divCore, htot, htarget, hshift, Nat.shiftLeft_eq]

/-- A quotient that is an integer. -/
theorem divCore_exact {b r : Nat} {k l : Nat} (hb : 0 < b) (hr : 0 < r)
    (hk : (b * r).log2 + k = 52) (hl : b.log2 + l = 52) :
    divCore Format.binary64 (b * r * 2 ^ k) (-(k : Int)) (b * 2 ^ l) (-(l : Int)) =
      (r * 2 ^ (k + 53 - l), -((k + 53 - l : Nat) : Int), .exact) := by
  have hsplit : b * r * 2 ^ k * 2 ^ 53 = r * 2 ^ (k + 53 - l) * (b * 2 ^ l) := by
    have hpow : 2 ^ k * 2 ^ 53 = 2 ^ (k + 53 - l) * 2 ^ l := by
      rw [← Nat.pow_add, ← Nat.pow_add]
      congr 1
      omega
    calc b * r * 2 ^ k * 2 ^ 53 = b * r * (2 ^ k * 2 ^ 53) := by ring
      _ = r * 2 ^ (k + 53 - l) * (b * 2 ^ l) := by rw [hpow]; ring
  have hpos : 0 < b * 2 ^ l := Nat.mul_pos hb (Nat.two_pow_pos l)
  simp only [divCore_ofInt (Nat.mul_pos hb hr) hb hk hl, hsplit, Nat.mul_div_cancel _ hpos,
    Nat.mul_mod_left, accuracyOfFraction, if_true]

theorem div_ofInt {a b : Int} (ha : FitsDouble a) (hb : FitsDouble b) (hb0 : b ≠ 0) (hdvd : b ∣ a)
    (hz : a = 0 → 0 < b) : ofInt a / ofInt b = ofInt (a / b) := by
  obtain ⟨r, rfl⟩ := hdvd
  rw [Int.mul_ediv_cancel_left _ hb0]
  show Float.ofModel (.pack (UnpackedFloat.div Format.binary64 (ofInt (b * r)).toModel.unpack
    (ofInt b).toModel.unpack)) = _
  obtain ⟨l, hq, hl, hv⟩ := unpack_ofInt hb0 hb
  by_cases hr0 : r = 0
  · subst hr0
    have hb' := hz (Int.mul_zero b)
    rw [Int.mul_zero, unpack_ofInt_zero, hv, ofInt_zero, signOf_of_nonneg (Int.le_of_lt hb')]
    rfl
  · obtain ⟨k, hp, hk, hu⟩ := unpack_ofInt (Int.mul_ne_zero hb0 hr0) ha
    have hrpos : 0 < r.natAbs := by omega
    have hbpos : 0 < b.natAbs := by omega
    simp only [Int.natAbs_mul] at hk hu
    have hr : r.natAbs < 9007199254740992 := by
      unfold FitsDouble at ha
      rw [Int.natAbs_mul] at ha
      exact Nat.lt_of_le_of_lt (Nat.le_mul_of_pos_left _ hbpos) ha
    have hlog := log2_mul_le b.natAbs r.natAbs
    rw [hu, hv]
    simp only [UnpackedFloat.div, divCore_exact hbpos hrpos hk hl]
    rw [signOf_mul hb0 hr0, sign_mul_div, roundWithAccuracy_natural hrpos hr _ (by omega)]
    rfl

theorem decide_tmod_neg {a b : Int} (hz : a.tmod b = 0 → 0 ≤ a) :
    decide (a < 0) = decide (a.tmod b < 0) := by
  rw [decide_eq_decide]
  rcases Int.lt_or_le a 0 with h | h
  · have hneg := Int.tmod_nonneg b (a := -a) (by omega)
    rw [Int.neg_tmod] at hneg
    omega
  · have hnonneg := Int.tmod_nonneg b h
    omega

/-- The remainder of two integers has the sign of the first, also when it is zero. -/
theorem remainder_eq_nearest {a b : Int} (ha : FitsDouble a) (hb : FitsDouble b) (hb0 : b ≠ 0) :
    remainder (ofInt a) (ofInt b) = nearest (a < 0) (a.natAbs % b.natAbs) 0 := by
  obtain ⟨k, -, hu⟩ := exact_ofInt ha
  obtain ⟨l, -, hv⟩ := exact_ofInt hb
  have hpos : b.natAbs * 2 ^ l ≠ 0 := Nat.mul_ne_zero (by omega) (Nat.two_pow_pos l).ne'
  have hk : (-(k : Int) - -((max k l : Nat) : Int)).toNat = max k l - k := by omega
  have hl : (-(l : Int) - -((max k l : Nat) : Int)).toNat = max k l - l := by omega
  have hleft : a.natAbs * 2 ^ k * 2 ^ (max k l - k) = a.natAbs * 2 ^ max k l := by
    rw [Nat.mul_assoc, ← Nat.pow_add, Nat.add_sub_cancel' (Nat.le_max_left k l)]
  have hright : b.natAbs * 2 ^ l * 2 ^ (max k l - l) = b.natAbs * 2 ^ max k l := by
    rw [Nat.mul_assoc, ← Nat.pow_add, Nat.add_sub_cancel' (Nat.le_max_right k l)]
  have hlt : a.natAbs % b.natAbs < 9007199254740992 :=
    Nat.lt_of_lt_of_le (Nat.mod_lt _ (by omega)) (Nat.le_of_lt hb)
  unfold remainder
  simp only [hu, hv, hpos, if_false, min_neg_natCast, hk, hl, Nat.shiftLeft_eq, hleft, hright,
    Nat.mul_mod_mul_right]
  exact nearest_natural hlt _ _

theorem remainder_ofInt {a b : Int} (ha : FitsDouble a) (hb : FitsDouble b) (hb0 : b ≠ 0)
    (hz : a.tmod b = 0 → 0 ≤ a) : remainder (ofInt a) (ofInt b) = ofInt (a.tmod b) := by
  rw [remainder_eq_nearest ha hb hb0, ofInt_of_sign (decide_tmod_neg hz), Int.natAbs_tmod]

end AdaptiveTree.Number

namespace AdaptiveTree

open Number

theorem fitsDouble_toInt (i : Int32) : FitsDouble i.toInt := by
  have := i.le_toInt
  have := i.toInt_lt
  unfold FitsDouble
  omega

namespace Value

theorem fitsInt32_iff {n : Int} : fitsInt32 n = true ↔ -2147483648 ≤ n ∧ n < 2147483648 := by
  simp [fitsInt32]

theorem toInt_ofInt_of_fits {n : Int} (h : fitsInt32 n = true) : (Int32.ofInt n).toInt = n := by
  obtain ⟨hlo, hhi⟩ := fitsInt32_iff.1 h
  exact Int32.toInt_ofInt_of_le hlo hhi

/-- A number keeps its double in whatever representation it is given. -/
theorem number_cases (d : Float) :
    number d = .double d ∨ ∃ i : Int32, number d = .int i ∧ widen i = d := by
  unfold number
  split
  · rename_i n hn
    split
    · rename_i h
      obtain ⟨hfit, hz⟩ := Bool.and_eq_true_iff.1 h
      right
      refine ⟨Int32.ofInt n, rfl, ?_⟩
      have hsmall : FitsDouble n := by
        obtain ⟨hlo, hhi⟩ := fitsInt32_iff.1 hfit
        unfold FitsDouble
        omega
      rw [widen, toInt_ofInt_of_fits hfit]
      exact (eq_ofInt hn hsmall (by simpa using hz)).symm
    · exact .inl rfl
  · exact .inl rfl

/-- A number is an integer of 32 bits when its double is one, and no negative zero. -/
theorem number_eq_int {d : Float} {r : Int32} : number d = .int r ↔
    integer? d = some r.toInt ∧ isNegativeZero d = false := by
  have hlow := r.le_toInt
  have hhigh := r.toInt_lt
  have hfit : fitsInt32 r.toInt = true := fitsInt32_iff.2 (by omega)
  unfold number
  split
  · rename_i n hn
    split
    · rename_i h
      obtain ⟨hfit', hz⟩ := Bool.and_eq_true_iff.1 h
      rw [int.injEq, hn, Option.some.injEq]
      constructor
      · rintro rfl
        exact ⟨(toInt_ofInt_of_fits hfit').symm, by simpa using hz⟩
      · rintro ⟨rfl, -⟩
        exact Int32.ofInt_toInt r
    · rename_i h
      refine ⟨nofun, ?_⟩
      rintro ⟨hr, hz⟩
      rw [hn, Option.some.injEq] at hr
      rw [hr, hfit, hz] at h
      exact absurd rfl h
  · rename_i hn
    refine ⟨nofun, ?_⟩
    rintro ⟨hr, -⟩
    rw [hn] at hr
    cases hr

end Value

namespace Op

theorem toInt_of_checked {n : Int} {r : Int32} (h : checked n = some r) : r.toInt = n := by
  unfold checked at h
  split at h
  · rename_i hfit
    rw [← Option.some.inj h]
    exact Value.toInt_ofInt_of_fits hfit
  · cases h

/-- Where an operator has a result on integers, it has the same result on their doubles. -/
theorem applyDouble_widen {op : Op} {a b r : Int32} (h : op.applyInt a b = some r) :
    op.applyDouble (Value.widen a) (Value.widen b) = Value.widen r := by
  have ha := fitsDouble_toInt a
  have hb := fitsDouble_toInt b
  have hr := fitsDouble_toInt r
  unfold Value.widen
  cases op with
  | add =>
    rw [toInt_of_checked h] at hr ⊢
    exact add_ofInt ha hb hr
  | sub =>
    rw [toInt_of_checked h] at hr ⊢
    exact sub_ofInt ha hb hr
  | mul =>
    simp only [applyInt] at h
    split at h
    · cases h
    · rename_i hz
      rw [toInt_of_checked h] at hr ⊢
      exact mul_ofInt ha hb hr (by omega)
  | div =>
    simp only [applyInt] at h
    split at h
    · cases h
    · rename_i hz
      split at h
      · rename_i hmod
        have hdvd := Int.dvd_of_tmod_eq_zero hmod
        rw [toInt_of_checked h, Int.tdiv_eq_ediv_of_dvd hdvd]
        exact div_ofInt ha hb (by omega) hdvd (by omega)
      · cases h
  | rem =>
    simp only [applyInt] at h
    split at h
    · cases h
    · rename_i hz
      rw [toInt_of_checked h]
      exact remainder_ofInt ha hb (by omega) (by omega)

end Op

end AdaptiveTree
