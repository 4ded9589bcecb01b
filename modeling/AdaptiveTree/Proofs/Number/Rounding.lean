import AdaptiveTree.Number.Exact
import Mathlib

/-!
# Doubles that are exact

Rounding changes nothing that a double can hold. A pair `(m, e)` is *canonical* when it is the
mantissa and exponent of a finite double:

* `unpack_canonical`: what unpacking gives is canonical;
* `pack_unpack`, `unpack_pack_normal`: packing and unpacking undo each other;
* `roundWithAccuracy_canonical`, `round_canonical`: rounding `m · 2^e`, however it is scaled, gives
  back the canonical `(m, e)`;
* `round_natural`: an integer below `2^53` has a canonical pair, so it is rounded to itself.
-/

set_option autoImplicit false

namespace AdaptiveTree.Number

open Float.Model (Format UnpackedFloat totalExponent)
open Float.Model.UnpackedFloat

/-! ## Canonical pairs -/

/-- `(m, e)` is the mantissa and exponent of a finite double. -/
structure Canonical (m : Nat) (e : Int) : Prop where
  lt : m < 9007199254740992
  low : -1074 ≤ e
  high : e ≤ 971
  normal : 4503599627370496 ≤ m ∨ e = -1074

theorem targetExponent_eq (t : Int) :
    Format.binary64.targetExponent t = max (t - 53) (-1074) := rfl

theorem log2_normal {m : Nat} (h : 4503599627370496 ≤ m) (h' : m < 9007199254740992) :
    m.log2 = 52 :=
  (Nat.log2_eq_iff (by omega)).2 ⟨h, h'⟩

theorem log2_mul_pow {m : Nat} (hm : 0 < m) (k : Nat) : (m * 2 ^ k).log2 = m.log2 + k := by
  rw [Nat.log2_eq_iff (Nat.mul_ne_zero (by omega) (Nat.two_pow_pos k).ne')]
  constructor
  · rw [Nat.pow_add]
    exact Nat.mul_le_mul_right _ (Nat.log2_self_le (by omega))
  · rw [show m.log2 + k + 1 = m.log2 + 1 + k by omega, Nat.pow_add]
    exact Nat.mul_lt_mul_of_pos_right Nat.lt_log2_self (Nat.two_pow_pos k)

/-- The exponent of a canonical pair is the one that its value asks for. -/
theorem Canonical.target {m : Nat} {e : Int} (hc : Canonical m e) (hm : 0 < m) :
    Format.binary64.targetExponent (totalExponent m e) = e := by
  rw [targetExponent_eq]
  have hlow := hc.low
  unfold totalExponent
  rcases hc.normal with hn | rfl
  · rw [log2_normal hn hc.lt]
    omega
  · have : m.log2 < 53 := (Nat.log2_lt (by omega)).2 hc.lt
    omega

/-- A value scaled down by `2^k` still asks for the exponent of its canonical pair. -/
theorem Canonical.target_scaled {m : Nat} {e : Int} (hc : Canonical m e) (hm : 0 < m) (k : Nat) :
    Format.binary64.targetExponent (totalExponent (m * 2 ^ k) (e - k)) = e := by
  have htot : totalExponent (m * 2 ^ k) (e - k) = totalExponent m e := by
    unfold totalExponent
    rw [log2_mul_pow hm]
    omega
  rw [htot, hc.target hm]

/-! ## Rounding -/

theorem shiftRight_exact (m k : Nat) :
    (ExtendedMantissa.mk (m * 2 ^ k) false false >>> k) = ⟨m, false, false⟩ := by
  change Nat.repeat ExtendedMantissa.shiftRightOne k _ = _
  induction k generalizing m with
  | zero => simp [Nat.repeat]
  | succ k ih =>
    have h : m * 2 ^ (k + 1) = (m * 2) * 2 ^ k := by ring
    rw [Nat.repeat, h, ih (m * 2)]
    simp [ExtendedMantissa.shiftRightOne]

/-- Shifting a value to the exponent of its canonical pair loses nothing. -/
theorem shiftToTargetExponent_canonical {m : Nat} {e : Int} (hc : Canonical m e) (hm : 0 < m)
    (k : Nat) :
    shiftToTargetExponent Format.binary64 (m * 2 ^ k) (e - k) .exact = (⟨m, false, false⟩, e) := by
  have ht := hc.target_scaled hm k
  have hk : (e - (e - k)).toNat = k := by omega
  simp only [shiftToTargetExponent, shiftToExponent, ht, hk, ExtendedMantissa.ofMantissaAndAccuracy,
    shiftRight_exact]
  rw [Int.sub_add_cancel]

theorem roundWithAccuracy_canonical {m : Nat} {e : Int} (hc : Canonical m e) (hm : 0 < m)
    (s : Sign) (k : Nat) :
    roundWithAccuracy Format.binary64 s (m * 2 ^ k) (e - k) .exact = .finite s m e hm := by
  have h1 := shiftToTargetExponent_canonical hc hm k
  have h0 := shiftToTargetExponent_canonical hc hm 0
  simp only [Nat.pow_zero, Nat.mul_one, Int.natCast_zero, Int.sub_zero] at h0
  unfold roundWithAccuracy
  simp only [h1, ExtendedMantissa.roundedMantissa, ExtendedMantissa.accuracy,
    Accuracy.roundToNearestEven, h0]
  rw [dif_neg (by omega)]

/-- Rounding the value of a canonical pair gives the pair; here with `k` more bits. -/
theorem round_canonical {m : Nat} {e : Int} (hc : Canonical m e) (hm : 0 < m) (s : Sign) (k : Nat) :
    UnpackedFloat.round Format.binary64 s (m * 2 ^ k) (e - k) = .finite s m e hm := by
  have ht := hc.target_scaled hm k
  have hk : (e - k - e).toNat = 0 := by omega
  simp only [UnpackedFloat.round, decreaseExponent, ht, hk, Nat.shiftLeft_zero, Int.natCast_zero,
    Int.sub_zero]
  exact roundWithAccuracy_canonical hc hm s k

/-- Rounding the value of a canonical pair gives the pair; here with `k` bits less. -/
theorem round_canonical_down {m : Nat} {e : Int} {k : Nat} (hc : Canonical (m * 2 ^ k) e)
    (hm : 0 < m * 2 ^ k) (s : Sign) :
    UnpackedFloat.round Format.binary64 s m (e + k) = .finite s (m * 2 ^ k) e hm := by
  have hpos : 0 < m := Nat.pos_of_mul_pos_right hm
  have ht : Format.binary64.targetExponent (totalExponent m (e + k)) = e := by
    have htot : totalExponent m (e + k) = totalExponent (m * 2 ^ k) e := by
      unfold totalExponent
      rw [log2_mul_pow hpos]
      omega
    rw [htot, hc.target hm]
  have hk : (e + k - e).toNat = k := by omega
  have hexp : e + (k : Int) - k = e := by omega
  simp only [UnpackedFloat.round, decreaseExponent, ht, hk, Nat.shiftLeft_eq, hexp]
  have := roundWithAccuracy_canonical hc hm s 0
  simpa using this

/-! ## Packing -/

theorem implicitBit_toNat (v : BitVec 52) : (1#1 ++ v).toNat = 4503599627370496 + v.toNat := by
  rw [BitVec.toNat_append, ← Nat.shiftLeft_add_eq_or_of_lt v.isLt]
  rfl

/-- An exponent that is neither all zeros nor all ones. -/
theorem exponent_bounds {e : BitVec 11} (h0 : e ≠ 0#11) (h1 : e ≠ -1#11) :
    1 ≤ e.toNat ∧ e.toNat ≤ 2046 := by
  have := e.isLt
  have h0' : e.toNat ≠ 0 := fun h => h0 (BitVec.eq_of_toNat_eq h)
  have h1' : e.toNat ≠ 2047 := fun h => h1 (BitVec.eq_of_toNat_eq h)
  omega

theorem unpackMantissa_lt (b : BitVec Format.binary64.numBits) :
    (unpackMantissa b).toNat < 4503599627370496 := (unpackMantissa b).isLt

theorem exponentBias_eq : ((Format.binary64.exponentBias : Nat) : Int) = 1023 := by decide

/-- What unpacking gives is canonical. -/
theorem unpack_canonical {b : BitVec Format.binary64.numBits} {s : Sign} {m : Nat} {e : Int}
    {hm : 0 < m} (h : UnpackedFloat.unpack Format.binary64 b = .finite s m e hm) :
    Canonical m e := by
  have hv := unpackMantissa_lt b
  have hbias := exponentBias_eq
  unfold UnpackedFloat.unpack at h
  simp only at h
  split at h
  · split at h <;> cases h
  · rename_i h1
    split at h
    · rename_i h0
      split at h
      · cases h
      · injection h with _ hm he
        subst hm he
        rw [h0]
        exact ⟨by omega, by decide, by decide, .inr (by decide)⟩
    · rename_i h0
      injection h with _ hm he
      obtain ⟨hlo, hhi⟩ := exponent_bounds h0 h1
      rw [implicitBit_toNat] at hm
      exact ⟨by omega, by omega, by omega, .inl (by omega)⟩

theorem pack_normal {s : Sign} {m : Nat} {e : Int} (hm : 0 < m) (hn : 4503599627370496 ≤ m)
    (hlt : m < 9007199254740992) (hlo : -1074 ≤ e) (hhi : e ≤ 971) :
    UnpackedFloat.pack Format.binary64 (.finite s m e hm) =
      packComponents Format.binary64 s (BitVec.ofNat 11 (e + 1075).toNat) (BitVec.ofNat 52 m) := by
  have hbias := exponentBias_eq
  have hexp : (e + Format.binary64.exponentBias +
      (Format.binary64.mantissaBitsWithoutImplicit : Nat)).toNat = (e + 1075).toNat := by
    show (e + Format.binary64.exponentBias + ((52 : Nat) : Int)).toNat = _
    omega
  have hsmall : ¬ 2 ^ Format.binary64.exponentBits ≤ (e + 1075).toNat + 1 := by
    show ¬ 2 ^ 11 ≤ _
    omega
  unfold UnpackedFloat.pack
  simp only [hexp]
  rw [if_neg hsmall, if_pos (by rw [log2_normal hn hlt]; rfl)]

/-- Packing what was unpacked gives the double back. -/
theorem pack_unpack (f : Float.Model) : Float.Model.pack f.unpack = f := by
  obtain ⟨bits, valid⟩ := f
  have h := pack_unpack_of_valid valid
  simp only [Float.Model.pack, Float.Model.unpack, h, UInt64.ofBitVec_toBitVec]

/-- A double is determined by what it unpacks to. -/
theorem eq_ofModel_pack {d : Float} {u : UnpackedFloat} (h : d.toModel.unpack = u) :
    d = .ofModel (.pack u) := by
  rw [← h, pack_unpack]

@[simp] theorem unpack_pack_zero (s : Sign) : (Float.Model.pack (.zero s)).unpack = .zero s := by
  cases s <;> rfl

theorem unpack_pack_normal {m : Nat} {e : Int} (s : Sign) (hm : 0 < m)
    (hn : 4503599627370496 ≤ m) (hc : Canonical m e) :
    (Float.Model.pack (.finite s m e hm)).unpack = .finite s m e hm := by
  have hlt := hc.lt
  have hlo := hc.low
  have hhi := hc.high
  have hexp : (BitVec.ofNat 11 (e + 1075).toNat).toNat = (e + 1075).toNat := by
    rw [BitVec.toNat_ofNat]
    exact Nat.mod_eq_of_lt (by omega)
  have h1 : BitVec.ofNat 11 (e + 1075).toNat ≠ -1#11 := by
    intro h
    have h' : (e + 1075).toNat = 2047 := hexp.symm.trans (congrArg BitVec.toNat h)
    omega
  have h0 : BitVec.ofNat 11 (e + 1075).toNat ≠ 0#11 := by
    intro h
    have h' : (e + 1075).toNat = 0 := hexp.symm.trans (congrArg BitVec.toNat h)
    omega
  have hman : (1#1 ++ BitVec.ofNat 52 m).toNat = m := by
    rw [implicitBit_toNat, BitVec.toNat_ofNat]
    omega
  have hback : ((e + 1075).toNat : Int) - (Format.binary64.exponentBias +
      (Format.binary64.mantissaBitsWithoutImplicit : Nat)) = e := by
    have hbias := exponentBias_eq
    show _ - (_ + ((52 : Nat) : Int)) = _
    omega
  show UnpackedFloat.unpack Format.binary64 (UnpackedFloat.pack Format.binary64 _) = _
  rw [pack_normal hm hn hlt hlo hhi]
  unfold UnpackedFloat.unpack
  simp only [unpackMantissa_packComponents, unpackExponent_packComponents,
    unpackSign_packComponents, Sign.ofBitVec_toBitVec, hexp, hback]
  rw [if_neg h1, if_neg h0]
  simp only [hman]

/-! ## Integers -/

/-- The canonical pair of an integer below `2^53`. -/
theorem canonical_natural {n : Nat} (hn : 0 < n) (hlt : n < 9007199254740992) :
    4503599627370496 ≤ n * 2 ^ (52 - n.log2) ∧
      Canonical (n * 2 ^ (52 - n.log2)) ((n.log2 : Int) - 52) := by
  have hlog : n.log2 < 53 := (Nat.log2_lt (by omega)).2 hlt
  have h52 : (n * 2 ^ (52 - n.log2)).log2 = 52 := by
    rw [log2_mul_pow hn]
    omega
  have hpos : n * 2 ^ (52 - n.log2) ≠ 0 := Nat.mul_ne_zero (by omega) (Nat.two_pow_pos _).ne'
  obtain ⟨h1, h2⟩ := (Nat.log2_eq_iff hpos).1 h52
  exact ⟨h1, h2, by omega, by omega, .inl h1⟩

/-- An integer below `2^53`, however it is scaled, is rounded to its canonical pair. -/
theorem round_natural {n : Nat} (hn : 0 < n) (hlt : n < 9007199254740992) (s : Sign) (k : Nat) :
    UnpackedFloat.round Format.binary64 s (n * 2 ^ k) (-(k : Int)) =
      .finite s (n * 2 ^ (52 - n.log2)) ((n.log2 : Int) - 52)
        (Nat.mul_pos hn (Nat.two_pow_pos _)) := by
  obtain ⟨-, hc⟩ := canonical_natural hn hlt
  have hlog : n.log2 < 53 := (Nat.log2_lt (by omega)).2 hlt
  have hpos : 0 < n * 2 ^ (52 - n.log2) := Nat.mul_pos hn (Nat.two_pow_pos _)
  rcases Nat.le_total (52 - n.log2) k with hk | hk
  · have h := round_canonical hc hpos s (k - (52 - n.log2))
    rw [Nat.mul_assoc, ← Nat.pow_add, Nat.add_sub_cancel' hk] at h
    rw [← h]
    congr 1
    omega
  · have hsplit : n * 2 ^ (52 - n.log2) = n * 2 ^ k * 2 ^ (52 - n.log2 - k) := by
      rw [Nat.mul_assoc, ← Nat.pow_add, Nat.add_sub_cancel' hk]
    simp only [hsplit] at hc hpos ⊢
    rw [← round_canonical_down hc hpos s]
    congr 1
    omega

/-- Rounding that only drops bits is as exact, if there are enough bits to drop. -/
theorem roundWithAccuracy_natural {n : Nat} (hn : 0 < n) (hlt : n < 9007199254740992) (s : Sign)
    {k : Nat} (hk : 52 ≤ n.log2 + k) :
    roundWithAccuracy Format.binary64 s (n * 2 ^ k) (-(k : Int)) .exact =
      UnpackedFloat.round Format.binary64 s n 0 := by
  obtain ⟨-, hc⟩ := canonical_natural hn hlt
  have hlog : n.log2 < 53 := (Nat.log2_lt (by omega)).2 hlt
  have hpos : 0 < n * 2 ^ (52 - n.log2) := Nat.mul_pos hn (Nat.two_pow_pos _)
  have h := roundWithAccuracy_canonical hc hpos s (k - (52 - n.log2))
  rw [Nat.mul_assoc, ← Nat.pow_add, Nat.add_sub_cancel' (by omega)] at h
  have h0 := round_natural hn hlt s 0
  simp only [Nat.pow_zero, Nat.mul_one, Int.natCast_zero, Int.neg_zero] at h0
  rw [h0, ← h]
  congr 1
  omega

end AdaptiveTree.Number
