import AdaptiveTree.Number.Text
import AdaptiveTree.Proofs.Number.Rounding

/-!
# Integers as doubles

`ofInt n` is exactly `n` for every integer `n` below `2^53` in size (`unpack_ofInt`). So the integer
and the text of that double are those of `n` (`integer?_ofInt`, `text_ofInt`), and a double that is
such an integer and not a negative zero is `ofInt` of it (`eq_ofInt`).
-/

set_option autoImplicit false

namespace AdaptiveTree.Number

open Float.Model (Format UnpackedFloat totalExponent)
open Float.Model.UnpackedFloat

/-- `n` is below `2^53` in size. -/
def FitsDouble (n : Int) : Prop := n.natAbs < 9007199254740992

theorem round_zero (s : Sign) (e : Int) :
    UnpackedFloat.round Format.binary64 s 0 e = .zero s := by
  have hz : ∀ k : Nat, ExtendedMantissa.mk 0 false false >>> k = .mk 0 false false := fun k => by
    have := shiftRight_exact 0 k
    rwa [Nat.zero_mul] at this
  simp [UnpackedFloat.round, decreaseExponent, roundWithAccuracy, shiftToTargetExponent,
    shiftToExponent, ExtendedMantissa.ofMantissaAndAccuracy, hz, ExtendedMantissa.roundedMantissa,
    ExtendedMantissa.accuracy, Accuracy.roundToNearestEven]

@[simp] theorem nearest_zero (negative : Bool) (e : Int) :
    nearest negative 0 e = .ofModel (.pack (.zero (signOf negative))) := by
  rw [nearest, round_zero]

theorem ofInt_zero : ofInt 0 = .ofModel (.pack (.zero .positive)) := nearest_zero false 0

@[simp] theorem unpack_ofInt_zero : (ofInt 0).toModel.unpack = .zero .positive := by
  rw [ofInt_zero]
  exact unpack_pack_zero .positive

/-- An integer scaled by a power of two is still rounded to the integer. -/
theorem nearest_natural {n : Nat} (hlt : n < 9007199254740992) (negative : Bool) (k : Nat) :
    nearest negative (n * 2 ^ k) (-(k : Int)) = nearest negative n 0 := by
  rcases Nat.eq_zero_or_pos n with rfl | hn
  · rw [Nat.zero_mul, nearest_zero, nearest_zero]
  · have h0 := round_natural hn hlt (signOf negative) 0
    simp only [Nat.pow_zero, Nat.mul_one, Int.natCast_zero, Int.neg_zero] at h0
    unfold nearest
    rw [round_natural hn hlt, h0]

/-- The double of an integer other than zero: its size, scaled to 53 bits. -/
theorem unpack_ofInt {n : Int} (h0 : n ≠ 0) (hn : FitsDouble n) :
    ∃ (k : Nat) (hp : 0 < n.natAbs * 2 ^ k), n.natAbs.log2 + k = 52 ∧
      (ofInt n).toModel.unpack =
        .finite (signOf (n < 0)) (n.natAbs * 2 ^ k) (-(k : Int)) hp := by
  have hpos : 0 < n.natAbs := by omega
  have hlog : n.natAbs.log2 < 53 := (Nat.log2_lt (by omega)).2 hn
  obtain ⟨h1, hc⟩ := canonical_natural hpos hn
  have hround := round_natural hpos hn (signOf (n < 0)) 0
  simp only [Nat.pow_zero, Nat.mul_one, Int.natCast_zero, Int.neg_zero] at hround
  refine ⟨52 - n.natAbs.log2, Nat.mul_pos hpos (Nat.two_pow_pos _), by omega, ?_⟩
  have hexp : ((n.natAbs.log2 : Int) - 52) = -((52 - n.natAbs.log2 : Nat) : Int) := by omega
  rw [← unpack_pack_normal _ _ h1 (hexp ▸ hc)]
  unfold ofInt nearest
  rw [hround]
  simp only [hexp]

/-! ## Reading an integer off a double -/

@[simp] theorem scaled?_mul_pow (n k : Nat) : scaled? (n * 2 ^ k) (-(k : Int)) = some n := by
  cases k with
  | zero =>
    show some ((n * 2 ^ 0) <<< 0) = some n
    simp
  | succ k =>
    have hmod : n * 2 ^ (k + 1) % 2 ^ (k + 1) = 0 := Nat.mul_mod_left _ _
    show (if n * 2 ^ (k + 1) % (1 <<< (k + 1)) = 0 then some ((n * 2 ^ (k + 1)) >>> (k + 1))
      else none) = some n
    rw [Nat.one_shiftLeft, if_pos hmod, Nat.shiftRight_eq_div_pow,
      Nat.mul_div_cancel _ (Nat.two_pow_pos _)]

/-- A natural number `m · 2^e` is an integer multiple of a power of two, or `m` is one of it. -/
theorem scaled?_eq_some {m n : Nat} {e : Int} (h : scaled? m e = some n) :
    (∃ k : Nat, e = k ∧ n = m * 2 ^ k) ∨ ∃ k : Nat, e = -(k : Int) ∧ m = n * 2 ^ k := by
  unfold scaled? at h
  split at h
  · rename_i k
    left
    refine ⟨k, rfl, ?_⟩
    rw [← Option.some.inj h, Nat.shiftLeft_eq]
  · rename_i k
    right
    split at h
    · rename_i hmod
      refine ⟨k + 1, rfl, ?_⟩
      rw [Nat.one_shiftLeft] at hmod
      rw [← Option.some.inj h, Nat.shiftRight_eq_div_pow]
      exact (Nat.div_mul_cancel (Nat.dvd_of_mod_eq_zero hmod)).symm
    · cases h

theorem isMinus_signOf (b : Bool) : isMinus (signOf b) = b := by
  cases b <;> rfl

/-- A double with a finite value is a zero or unpacks to that value. -/
theorem unpack_of_exact {d : Float} {negative : Bool} {m : Nat} {e : Int}
    (h : exact d = .dyadic negative m e) :
    (m = 0 ∧ d.toModel.unpack = .zero (signOf negative)) ∨
      ∃ hm : 0 < m, d.toModel.unpack = .finite (signOf negative) m e hm := by
  unfold exact at h
  split at h
  · cases h
  · cases h
  · rename_i s hu
    cases h
    exact .inl ⟨rfl, by cases s <;> exact hu⟩
  · rename_i s m' e' hm hu
    cases h
    exact .inr ⟨hm, by cases s <;> exact hu⟩

theorem integer?_of_exact {d : Float} {negative : Bool} {m : Nat} {e : Int}
    (h : exact d = .dyadic negative m e) :
    integer? d = (scaled? m e).map fun n : Nat => if negative then -(n : Int) else n := by
  simp only [integer?, h]
  cases scaled? m e <;> rfl

/-- The size and sign of the integer that a double is. -/
theorem integer?_eq_some {d : Float} {n : Int} (h : integer? d = some n) :
    ∃ (negative : Bool) (m : Nat) (e : Int) (a : Nat), exact d = .dyadic negative m e ∧
      scaled? m e = some a ∧ n = if negative then -(a : Int) else a := by
  cases he : exact d with
  | nan => simp [integer?, he] at h
  | infinite s => simp [integer?, he] at h
  | dyadic s m e =>
    rw [integer?_of_exact he] at h
    obtain ⟨a, ha, rfl⟩ := Option.map_eq_some_iff.1 h
    exact ⟨s, m, e, a, rfl, ha, rfl⟩

/-- The exact value of `ofInt n` is `n`. -/
theorem exact_ofInt {n : Int} (hn : FitsDouble n) :
    ∃ k : Nat, k ≤ 52 ∧ exact (ofInt n) = .dyadic (n < 0) (n.natAbs * 2 ^ k) (-(k : Int)) := by
  by_cases h0 : n = 0
  · subst h0
    refine ⟨0, by omega, ?_⟩
    unfold exact
    rw [unpack_ofInt_zero]
    rfl
  · obtain ⟨k, hp, hk, hu⟩ := unpack_ofInt h0 hn
    refine ⟨k, by omega, ?_⟩
    unfold exact
    rw [hu]
    simp only [isMinus_signOf]

@[simp] theorem integer?_ofInt {n : Int} (hn : FitsDouble n) : integer? (ofInt n) = some n := by
  obtain ⟨k, -, he⟩ := exact_ofInt hn
  rw [integer?_of_exact he, scaled?_mul_pow, Option.map_some, Option.some.injEq]
  simp only [decide_eq_true_eq]
  split <;> omega

/-- The text of the double of an integer is the text of the integer. -/
theorem text_ofInt {n : Int} (hn : FitsDouble n) : text (ofInt n) = intText n := by
  obtain ⟨k, -, he⟩ := exact_ofInt hn
  have hlim : n.natAbs < digitLimit := by
    unfold digitLimit
    unfold FitsDouble at hn
    omega
  simp only [text, he, scaled?_mul_pow, hlim, if_true, decide_eq_true_eq]
  congr 1
  split <;> omega

/-- A finite double that is a natural number below `2^53` is what that number is rounded to. -/
theorem nearest_of_unpack {d : Float} {negative : Bool} {m a : Nat} {e : Int} {hm : 0 < m}
    (hu : d.toModel.unpack = .finite (signOf negative) m e hm) (ha : scaled? m e = some a)
    (hlt : a < 9007199254740992) : nearest negative a 0 = d := by
  have hc := unpack_canonical hu
  rw [eq_ofModel_pack hu]
  unfold nearest
  congr 2
  rcases scaled?_eq_some ha with ⟨k, rfl, rfl⟩ | ⟨k, rfl, rfl⟩
  · -- a mantissa of 53 bits leaves no room for a further factor
    have hk : k = 0 := by
      by_contra hk
      have h2 : 2 ^ 1 ≤ 2 ^ k := Nat.pow_le_pow_right (by decide) (by omega)
      rcases hc.normal with hn | hn
      · have := Nat.mul_le_mul hn h2
        omega
      · omega
    subst hk
    simpa using round_canonical hc hm (signOf negative) 0
  · simpa using round_canonical_down hc hm (signOf negative)

/-- A double that is a small integer, and no negative zero, is the double of that integer. -/
theorem eq_ofInt {d : Float} {n : Int} (h : integer? d = some n) (hn : FitsDouble n)
    (hz : isNegativeZero d = false) : d = ofInt n := by
  obtain ⟨negative, m, e, a, he, ha, rfl⟩ := integer?_eq_some h
  rcases unpack_of_exact he with ⟨rfl, hu⟩ | ⟨hm, hu⟩
  · have ha0 : a = 0 := by
      rcases scaled?_eq_some ha with ⟨k, -, rfl⟩ | ⟨k, -, hk⟩
      · exact Nat.zero_mul _
      · have := (Nat.two_pow_pos k).ne'
        have := Nat.mul_eq_zero.1 hk.symm
        omega
    subst ha0
    cases negative with
    | true => simp [isNegativeZero, he] at hz
    | false => exact (eq_ofModel_pack hu).trans ofInt_zero.symm
  · have hapos : 0 < a := by
      rcases scaled?_eq_some ha with ⟨k, -, rfl⟩ | ⟨k, -, rfl⟩
      · exact Nat.mul_pos hm (Nat.two_pow_pos k)
      · exact Nat.pos_of_mul_pos_right hm
    have hlt : a < 9007199254740992 := by
      unfold FitsDouble at hn
      split at hn <;> omega
    rw [← nearest_of_unpack hu ha hlt]
    unfold ofInt
    cases negative with
    | true => simp [hapos]
    | false =>
      have hneg : ¬ ((a : Int) < 0) := by omega
      simp [hneg]

end AdaptiveTree.Number
