import AdaptiveTree.Proofs.Number.Inexact

/-!
# The operators on integers are exact

An operator has a result on two integers of 32 bits exactly where the mathematical result
(`Op.result?`) is such an integer and the double of it is not the negative zero
(`Op.applyInt_eq_some`). Doubles find the same results: the result on the doubles of two integers is
an integer of 32 bits where the mathematical one is (`Op.outcome_widen`), because what is rounded is
not rounded to a small integer. So it makes no difference whether two integers are combined as
integers or as doubles (`Op.applyInt_exact`).
-/

set_option autoImplicit false

namespace AdaptiveTree

open Number

namespace Op

/-- The mathematical result on two integers, if there is one; the remainder is that of the quotient
cut off toward zero. -/
def result? (op : Op) (x y : Int) : Option ℚ :=
  match op with
  | .add => some (x + y)
  | .sub => some (x - y)
  | .mul => some (x * y)
  | .div => if y = 0 then none else some (x / y)
  | .rem => if y = 0 then none else some (x.tmod y)

/-- Whether the result on two integers is zero with a minus sign: a product or quotient with a
negative operand, or a remainder with a negative dividend. -/
def MinusZero (op : Op) (x y : Int) : Prop :=
  match op with
  | .add | .sub => False
  | .mul | .div => op.result? x y = some 0 ∧ (x < 0 ∨ y < 0)
  | .rem => op.result? x y = some 0 ∧ x < 0

/-! ## Mathematical results that are integers -/

theorem result?_add {x y r : Int} : Op.add.result? x y = some (r : ℚ) ↔ x + y = r := by
  simp only [result?, Option.some.injEq]
  norm_cast

theorem result?_sub {x y r : Int} : Op.sub.result? x y = some (r : ℚ) ↔ x - y = r := by
  simp only [result?, Option.some.injEq]
  norm_cast

theorem result?_mul {x y r : Int} : Op.mul.result? x y = some (r : ℚ) ↔ x * y = r := by
  simp only [result?, Option.some.injEq]
  norm_cast

theorem result?_div {x y r : Int} :
    Op.div.result? x y = some (r : ℚ) ↔ y ≠ 0 ∧ x = r * y := by
  simp only [result?]
  split
  · simp_all
  · rename_i hy
    have hy' : (y : ℚ) ≠ 0 := by exact_mod_cast hy
    rw [Option.some.injEq, div_eq_iff hy']
    norm_cast
    simp [hy]

theorem result?_rem {x y r : Int} :
    Op.rem.result? x y = some (r : ℚ) ↔ y ≠ 0 ∧ x.tmod y = r := by
  simp only [result?]
  split
  · simp_all
  · rename_i hy
    rw [Option.some.injEq]
    norm_cast
    simp [hy]

theorem minusZero_mul {x y : Int} : Op.mul.MinusZero x y ↔ x * y = 0 ∧ (x < 0 ∨ y < 0) := by
  have h := result?_mul (x := x) (y := y) (r := 0)
  rw [Int.cast_zero] at h
  simp only [MinusZero, h]

theorem minusZero_div {x y : Int} : Op.div.MinusZero x y ↔ x = 0 ∧ y < 0 := by
  have h := result?_div (x := x) (y := y) (r := 0)
  rw [Int.cast_zero] at h
  simp only [MinusZero, h]
  omega

theorem minusZero_rem {x y : Int} : Op.rem.MinusZero x y ↔ y ≠ 0 ∧ x.tmod y = 0 ∧ x < 0 := by
  have h := result?_rem (x := x) (y := y) (r := 0)
  rw [Int.cast_zero] at h
  simp only [MinusZero, h, and_assoc]

/-! ## Results on integers -/

theorem checked_eq_some {n : Int} {r : Int32} : checked n = some r ↔ n = r.toInt := by
  constructor
  · intro h
    exact (toInt_of_checked h).symm
  · rintro rfl
    have hlow := r.le_toInt
    have hhigh := r.toInt_lt
    have hfit : Value.fitsInt32 r.toInt = true := Value.fitsInt32_iff.2 (by omega)
    unfold checked
    rw [if_pos hfit, Int32.ofInt_toInt]

/-- An operator has a result on integers exactly where the mathematical result is an integer of 32
bits and not a zero with a minus sign. -/
theorem applyInt_eq_some {op : Op} {a b r : Int32} : op.applyInt a b = some r ↔
    op.result? a.toInt b.toInt = some (r.toInt : ℚ) ∧ ¬ op.MinusZero a.toInt b.toInt := by
  cases op with
  | add =>
    rw [result?_add]
    simp only [applyInt, checked_eq_some, MinusZero, not_false_eq_true, and_true]
  | sub =>
    rw [result?_sub]
    simp only [applyInt, checked_eq_some, MinusZero, not_false_eq_true, and_true]
  | mul =>
    rw [result?_mul, minusZero_mul]
    simp only [applyInt]
    split
    · simp_all
    · rename_i hz
      rw [checked_eq_some]
      exact ⟨fun h => ⟨h, hz⟩, fun h => h.1⟩
  | div =>
    rw [result?_div, minusZero_div]
    simp only [applyInt]
    split
    · rename_i hz
      refine iff_of_false (Option.some_ne_none r).symm ?_
      rintro ⟨⟨hb, -⟩, hz'⟩
      omega
    · rename_i hz
      split
      · rename_i hmod
        rw [checked_eq_some]
        constructor
        · intro h
          refine ⟨⟨by omega, ?_⟩, by omega⟩
          rw [← h, Int.tdiv_mul_cancel_of_tmod_eq_zero hmod]
        · rintro ⟨⟨hb, h⟩, -⟩
          rw [h, Int.mul_tdiv_cancel _ hb]
      · rename_i hmod
        refine iff_of_false (Option.some_ne_none r).symm ?_
        rintro ⟨⟨-, h⟩, -⟩
        rw [h, Int.mul_tmod_left] at hmod
        exact absurd rfl hmod
  | rem =>
    rw [result?_rem, minusZero_rem]
    simp only [applyInt]
    split
    · rename_i hz
      refine iff_of_false (Option.some_ne_none r).symm ?_
      rintro ⟨⟨hb, -⟩, hz'⟩
      omega
    · rename_i hz
      rw [checked_eq_some]
      exact ⟨fun h => ⟨⟨by omega, h⟩, by omega⟩, fun h => h.1.2⟩

/-! ## Results on the doubles of integers -/

/-- What the result `d` of an operator on the doubles of two integers can be: the negative zero, the
double of the mathematical result, or no small integer, where the mathematical result is none. -/
def Outcome (op : Op) (a b : Int) (d : Float) : Prop :=
  (op.MinusZero a b ∧ op.result? a b = some 0 ∧ d = minusZero) ∨
  (¬ op.MinusZero a b ∧ ∃ n : Int, FitsDouble n ∧ op.result? a b = some (n : ℚ) ∧ d = ofInt n) ∨
  (¬ op.MinusZero a b ∧ ∀ n : Int, FitsDouble n →
    op.result? a b ≠ some (n : ℚ) ∧ integer? d ≠ some n)

theorem Outcome.exact {op : Op} {a b n : Int} {d : Float} (hz : ¬ op.MinusZero a b)
    (hn : FitsDouble n) (hr : op.result? a b = some (n : ℚ)) (hd : d = ofInt n) :
    op.Outcome a b d :=
  .inr (.inl ⟨hz, n, hn, hr, hd⟩)

section

variable {a b : Int} (ha : a.natAbs ≤ 2147483648) (hb : b.natAbs ≤ 2147483648)
include ha hb

theorem outcome_mul : Op.mul.Outcome a b (ofInt a * ofInt b) := by
  have ha' : FitsDouble a := by unfold FitsDouble; omega
  have hb' : FitsDouble b := by unfold FitsDouble; omega
  by_cases hz : Op.mul.MinusZero a b
  · obtain ⟨hprod, hneg⟩ := minusZero_mul.1 hz
    exact .inl ⟨hz, hz.1, mul_ofInt_minusZero ha' hb' hprod hneg⟩
  · by_cases hfit : FitsDouble (a * b)
    · have hz' : a * b = 0 → 0 ≤ a ∧ 0 ≤ b := fun h => by
        by_contra hneg
        exact hz (minusZero_mul.2 ⟨h, by omega⟩)
      exact .exact hz hfit (result?_mul.2 rfl) (mul_ofInt ha' hb' hfit hz')
    · refine .inr (.inr ⟨hz, fun n hn => ⟨?_, ?_⟩⟩)
      · rw [Ne, result?_mul]
        rintro rfl
        exact hfit hn
      · intro h
        exact integer?_mul_large ha' hb' hfit h hn

theorem outcome_div : Op.div.Outcome a b (ofInt a / ofInt b) := by
  have ha' : FitsDouble a := by unfold FitsDouble; omega
  have hb' : FitsDouble b := by unfold FitsDouble; omega
  by_cases hz : Op.div.MinusZero a b
  · obtain ⟨rfl, hneg⟩ := minusZero_div.1 hz
    exact .inl ⟨hz, hz.1, div_ofInt_minusZero hb' hneg⟩
  · rw [minusZero_div] at hz
    by_cases hb0 : b = 0
    · subst hb0
      refine .inr (.inr ⟨by rwa [minusZero_div], fun n _ => ⟨?_, ?_⟩⟩)
      · rw [Ne, result?_div]
        exact fun h => h.1 rfl
      · rw [integer?_div_zero ha']
        exact nofun
    · by_cases hdvd : b ∣ a
      · have hfit : FitsDouble (a / b) := by
          have := Int.natAbs_ediv_le_natAbs a b
          unfold FitsDouble
          omega
        have hresult : Op.div.result? a b = some ((a / b : Int) : ℚ) :=
          result?_div.2 ⟨hb0, (Int.ediv_mul_cancel hdvd).symm⟩
        exact .exact (by rwa [minusZero_div]) hfit hresult
          (div_ofInt ha' hb' hb0 hdvd (by omega))
      · refine .inr (.inr ⟨by rwa [minusZero_div], fun n _ => ⟨?_, ?_⟩⟩)
        · rw [Ne, result?_div]
          rintro ⟨-, rfl⟩
          exact hdvd (Dvd.intro_left n rfl)
        · rw [integer?_div_fraction (by omega) hb' hb0 hdvd]
          exact nofun

theorem outcome_rem : Op.rem.Outcome a b (remainder (ofInt a) (ofInt b)) := by
  have ha' : FitsDouble a := by unfold FitsDouble; omega
  have hb' : FitsDouble b := by unfold FitsDouble; omega
  by_cases hz : Op.rem.MinusZero a b
  · obtain ⟨hb0, hmod, hneg⟩ := minusZero_rem.1 hz
    exact .inl ⟨hz, hz.1, remainder_ofInt_minusZero ha' hb' hb0 hmod hneg⟩
  · by_cases hb0 : b = 0
    · subst hb0
      refine .inr (.inr ⟨hz, fun n _ => ⟨?_, ?_⟩⟩)
      · rw [Ne, result?_rem]
        exact fun h => h.1 rfl
      · rw [remainder_zero ha', integer?_nan]
        exact nofun
    · have hfit : FitsDouble (a.tmod b) := by
        have hlt := Nat.mod_lt a.natAbs (Int.natAbs_pos.2 hb0)
        unfold FitsDouble
        rw [Int.natAbs_tmod]
        omega
      have hz' : a.tmod b = 0 → 0 ≤ a := fun h => by
        by_contra hneg
        exact hz (minusZero_rem.2 ⟨hb0, h, by omega⟩)
      exact .exact hz hfit (result?_rem.2 ⟨hb0, rfl⟩) (remainder_ofInt ha' hb' hb0 hz')

theorem outcome (op : Op) : op.Outcome a b (op.applyDouble (ofInt a) (ofInt b)) := by
  have ha' : FitsDouble a := by unfold FitsDouble; omega
  have hb' : FitsDouble b := by unfold FitsDouble; omega
  cases op with
  | add =>
    have hfit : FitsDouble (a + b) := by unfold FitsDouble; omega
    exact .exact id hfit (result?_add.2 rfl) (add_ofInt ha' hb' hfit)
  | sub =>
    have hfit : FitsDouble (a - b) := by unfold FitsDouble; omega
    exact .exact id hfit (result?_sub.2 rfl) (sub_ofInt ha' hb' hfit)
  | mul => exact outcome_mul ha hb
  | div => exact outcome_div ha hb
  | rem => exact outcome_rem ha hb

end

theorem Outcome.integer? {op : Op} {a b n : Int} {d : Float} (h : op.Outcome a b d)
    (hn : FitsDouble n) : Number.integer? d = some n ↔ op.result? a b = some (n : ℚ) := by
  rcases h with ⟨-, hr, rfl⟩ | ⟨-, k, hk, hr, rfl⟩ | ⟨-, h⟩
  · rw [integer?_minusZero, hr, Option.some.injEq, Option.some.injEq]
    norm_cast
  · rw [integer?_ofInt hk, hr, Option.some.injEq, Option.some.injEq]
    norm_cast
  · exact ⟨fun hd => absurd hd (h n hn).2, fun hr => absurd hr (h n hn).1⟩

theorem Outcome.isNegativeZero {op : Op} {a b : Int} {d : Float} (h : op.Outcome a b d) :
    Number.isNegativeZero d = true ↔ op.MinusZero a b := by
  rcases h with ⟨hz, -, rfl⟩ | ⟨hz, k, hk, -, rfl⟩ | ⟨hz, h⟩
  · simp only [isNegativeZero_minusZero, hz]
  · simp only [isNegativeZero_ofInt hk, hz, Bool.false_eq_true]
  · refine ⟨fun hd => ?_, fun hz' => absurd hz' hz⟩
    have hzero : FitsDouble 0 := by unfold FitsDouble; decide
    exact absurd (integer?_of_isNegativeZero hd) (h 0 hzero).2

/-- The outcome of an operator on the doubles of two integers of 32 bits. -/
theorem outcome_widen (op : Op) (a b : Int32) :
    op.Outcome a.toInt b.toInt (op.applyDouble (Value.widen a) (Value.widen b)) := by
  have := a.le_toInt
  have := a.toInt_lt
  have := b.le_toInt
  have := b.toInt_lt
  exact outcome (by omega) (by omega) op

/-! ## Integers and doubles agree -/

/-- The operators on integers of 32 bits are exact. There is a result where the mathematical one is
an integer of 32 bits and the double of it is not the negative zero, which it is for a zero with a
negative operand. Those are the results that the doubles of the integers have as numbers, so that
the two ways to combine integers agree. The quotients and remainders that would overflow, and those
by zero, have no integer result. -/
theorem applyInt_exact (op : Op) (a b : Int32) :
    (∀ r, op.applyInt a b = some r ↔
      op.result? a.toInt b.toInt = some (r.toInt : ℚ) ∧
        Number.isNegativeZero (op.applyDouble (Value.widen a) (Value.widen b)) = false) ∧
    (Number.isNegativeZero (op.applyDouble (Value.widen a) (Value.widen b)) = true ↔
      op.MinusZero a.toInt b.toInt) ∧
    (∀ r, op.applyInt a b = some r ↔
      Value.number (op.applyDouble (Value.widen a) (Value.widen b)) = .int r) ∧
    (∀ h, op.apply h (.int a) (.int b) =
      Value.number (op.applyDouble (Value.widen a) (Value.widen b))) ∧
    Op.div.applyInt a 0 = none ∧ Op.rem.applyInt a 0 = none ∧
    Op.div.applyInt Int32.minValue (-1) = none ∧ Op.rem.applyInt Int32.minValue (-1) = none := by
  have hout := op.outcome_widen a b
  have hsign : (Number.isNegativeZero (op.applyDouble (Value.widen a) (Value.widen b)) = false) ↔
      ¬ op.MinusZero a.toInt b.toInt := by
    rw [← hout.isNegativeZero, Bool.not_eq_true]
  have hexact : ∀ r, op.applyInt a b = some r ↔
      op.result? a.toInt b.toInt = some (r.toInt : ℚ) ∧
        Number.isNegativeZero (op.applyDouble (Value.widen a) (Value.widen b)) = false := by
    intro r
    rw [applyInt_eq_some, hsign]
  have hdouble : ∀ r, op.applyInt a b = some r ↔
      Value.number (op.applyDouble (Value.widen a) (Value.widen b)) = .int r := fun r => by
    rw [hexact, Value.number_eq_int, hout.integer? (fitsDouble_toInt r)]
  have happly : ∀ h, op.apply h (.int a) (.int b) =
      Value.number (op.applyDouble (Value.widen a) (Value.widen b)) := fun h => by
    cases hr : op.applyInt a b with
    | some r =>
      simp only [apply, hr]
      exact ((hdouble r).1 hr).symm
    | none =>
      simp [apply, hr, applyWide, joins, Value.toNumber]
  refine ⟨hexact, hout.isNegativeZero, hdouble, happly, ?_, ?_, ?_, ?_⟩
  · simp [applyInt]
  · simp [applyInt]
  · decide
  · decide

end Op

end AdaptiveTree
