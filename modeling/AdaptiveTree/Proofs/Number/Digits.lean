import AdaptiveTree.Key
import Mathlib.Data.List.Induction
import Mathlib.Tactic.Ring

/-!
# Decimal digits and array indices

What `Key.parseIndex?` answers on the texts that numbers are printed as:

* `parseIndex?_digits`: the decimal digits of `n` are the index `n`, up to the greatest index;
* `parseIndex?_intText`: so is the text of an integer, and a negative one is no index;
* `indexText_of_parseIndex?`: a text that is an index is the text of that index;
* `parseIndex?_of_large`: digits that denote more than the greatest index are no index, however
  they were put together;
* `parseIndex?_of_mem`: nor is a text with a character that is not a digit.
-/

set_option autoImplicit false

namespace AdaptiveTree

namespace Number

theorem digitsValue_eq (cs : List Char) : digitsValue cs = Nat.ofDigitChars 10 cs 0 := by
  unfold digitsValue Nat.ofDigitChars
  congr 1
  funext acc c
  rw [Nat.mul_comm]
  rfl

@[simp] theorem digitsValue_toDigits (n : Nat) : digitsValue (Nat.toDigits 10 n) = n := by
  rw [digitsValue_eq, Nat.ofDigitChars_ten_toDigits]

/-- Zeros after the digits of `n` scale it by a power of ten. -/
theorem digitsValue_toDigits_append (n zeros : Nat) :
    digitsValue (Nat.toDigits 10 n ++ List.replicate zeros '0') = n * 10 ^ zeros := by
  rw [digitsValue_eq, Nat.ofDigitChars_append, Nat.ofDigitChars_ten_toDigits,
    Nat.ofDigitChars_replicate_zero, Nat.mul_comm]

theorem all_isDigit_toDigits (n : Nat) : (Nat.toDigits 10 n).all Char.isDigit = true :=
  List.all_eq_true.2 fun _ hc => Nat.isDigit_of_mem_toDigits (by decide) (by decide) hc

/-- The digits of a number do not begin with a zero, unless the number is zero. -/
theorem head?_toDigits_ne {n : Nat} (hn : 0 < n) : (Nat.toDigits 10 n).head? ≠ some '0' := by
  induction n using Nat.strongRecOn with
  | ind n ih =>
    by_cases h : n < 10
    · rw [Nat.toDigits_of_lt_base h]
      have hall : ∀ k < 10, 0 < k → [Nat.digitChar k].head? ≠ some '0' := by decide
      exact hall n h hn
    · rw [Nat.toDigits_of_base_le (by decide) (by omega), List.head?_append]
      have hne := ih (n / 10) (by omega) (by omega)
      cases hd : (Nat.toDigits 10 (n / 10)).head? with
      | none => simp at hd
      | some c => simpa [hd] using hne

theorem digitsValue_concat (cs : List Char) (c : Char) :
    digitsValue (cs ++ [c]) = digitsValue cs * 10 + (c.toNat - 48) := by
  simp [digitsValue]

theorem digitChar_digit {c : Char} (h : c.isDigit = true) :
    c.toNat - 48 < 10 ∧ Nat.digitChar (c.toNat - 48) = c := by
  obtain ⟨hlo, hhi⟩ : 48 ≤ c.toNat ∧ c.toNat ≤ 57 := Char.isDigit_iff_toNat.1 h
  obtain ⟨v, hv, hlt⟩ : ∃ v, c.toNat = v + 48 ∧ v < 10 := ⟨c.toNat - 48, by omega, by omega⟩
  refine ⟨by omega, ?_⟩
  rw [hv, Nat.add_sub_cancel]
  apply Char.toNat_inj.1
  rw [Nat.toNat_digitChar_of_lt_ten hlt, hv]
  omega

/-- Digits without a leading zero are the digits of what they denote. -/
theorem toDigits_digitsValue {cs : List Char} (hne : cs ≠ []) (hd : cs.all Char.isDigit = true)
    (hz : cs.head? ≠ some '0') :
    0 < digitsValue cs ∧ Nat.toDigits 10 (digitsValue cs) = cs := by
  induction cs using List.reverseRecOn with
  | nil => exact absurd rfl hne
  | append_singleton cs c ih =>
    rw [List.all_append, Bool.and_eq_true_iff] at hd
    obtain ⟨hlt, hc⟩ := digitChar_digit (c := c) (by simpa using hd.2)
    rw [digitsValue_concat]
    by_cases hnil : cs = []
    · subst hnil
      have hpos : c.toNat - 48 ≠ 0 := by
        intro h0
        rw [h0] at hc
        exact hz (by simp [← hc])
      simp only [digitsValue, List.foldl_nil, Nat.zero_mul, Nat.zero_add, List.nil_append]
      refine ⟨by omega, ?_⟩
      rw [Nat.toDigits_of_lt_base hlt, hc]
    · have hhead : cs.head? ≠ some '0' := by
        cases cs with
        | nil => exact absurd rfl hnil
        | cons d ds => exact hz
      obtain ⟨hpos, hds⟩ := ih hnil hd.1 hhead
      refine ⟨by omega, ?_⟩
      rw [Nat.toDigits_of_base_le (by decide) (by omega),
        show (digitsValue cs * 10 + (c.toNat - 48)) / 10 = digitsValue cs by omega,
        show (digitsValue cs * 10 + (c.toNat - 48)) % 10 = c.toNat - 48 by omega, hds, hc]

end Number

namespace Key

open Number

theorem parseIndex?_ofList (cs : List Char) (hd : cs.all Char.isDigit = true) (hne : cs ≠ [])
    (hl : cs.length ≤ 10) (hz : 1 < cs.length → cs.head? ≠ some '0') :
    parseIndex? (String.ofList cs) =
      if digitsValue cs ≤ maxIndex then some (UInt32.ofNat (digitsValue cs)) else none := by
  have h1 : ¬ (1 < cs.length ∧ cs.head? = some '0') := fun h => hz h.1 h.2
  have h2 : ¬ (10 < cs.length) := by omega
  simp [parseIndex?, hd, hne, h1, h2]

/-- A text with a character that is not a digit is no index. -/
theorem parseIndex?_of_mem {s : String} {c : Char} (hc : c ∈ s.toList) (hd : c.isDigit = false) :
    parseIndex? s = none := by
  have h : s.toList.all Char.isDigit = false := by
    rw [List.all_eq_false]
    exact ⟨c, hc, by simp [hd]⟩
  simp [parseIndex?, h]

/-- A text whose digits denote more than the greatest index is no index. -/
theorem parseIndex?_of_large {s : String} (h : maxIndex < digitsValue s.toList) :
    parseIndex? s = none := by
  have h' : ¬ digitsValue s.toList ≤ maxIndex := by omega
  unfold parseIndex?
  simp only [h', if_false, ite_self]

/-- An index read off a text is at most the greatest one. -/
theorem parseIndex?_le {s : String} {i : UInt32} (h : parseIndex? s = some i) :
    i.toNat ≤ maxIndex := by
  simp only [parseIndex?] at h
  split at h
  · cases h
  · split at h
    · cases h
    · split at h
      · rename_i hle
        cases h
        rw [UInt32.toNat_ofNat']
        exact Nat.le_trans (Nat.mod_le _ _) hle
      · cases h

theorem parseIndex?_digits (n : Nat) :
    parseIndex? (String.ofList (Nat.toDigits 10 n)) =
      if n ≤ maxIndex then some (UInt32.ofNat n) else none := by
  by_cases hn : n ≤ maxIndex
  · have hl : (Nat.toDigits 10 n).length ≤ 10 :=
      (Nat.length_toDigits_le_iff (by decide) (by decide)).2 (by unfold maxIndex at hn; omega)
    rw [parseIndex?_ofList _ (all_isDigit_toDigits n) Nat.toDigits_ne_nil hl, digitsValue_toDigits]
    intro h1
    apply head?_toDigits_ne
    -- more than one digit: the number is not zero
    rcases Nat.eq_zero_or_pos n with rfl | hpos
    · simp at h1
    · exact hpos
  · rw [if_neg hn]
    exact parseIndex?_of_large (by rw [String.toList_ofList, digitsValue_toDigits]; omega)

/-- The text of an integer is the index that the integer is, if it is one. -/
theorem parseIndex?_intText (n : Int) :
    parseIndex? (intText n) =
      if 0 ≤ n ∧ n ≤ maxIndex then some (UInt32.ofNat n.toNat) else none := by
  unfold intText
  by_cases h : n < 0
  · have hneg : ¬ (0 ≤ n ∧ n ≤ (maxIndex : Int)) := by omega
    rw [if_pos h, if_neg hneg]
    exact parseIndex?_of_mem (c := '-') (by simp) (by decide)
  · rw [if_neg h, parseIndex?_digits]
    have habs : n.natAbs = n.toNat := by omega
    have hiff : n.toNat ≤ maxIndex ↔ 0 ≤ n ∧ n ≤ (maxIndex : Int) := by omega
    simp only [habs, hiff]

/-- The text of an index is read as that index. -/
@[simp] theorem parseIndex?_indexText {i : UInt32} (h : i.toNat ≤ maxIndex) :
    parseIndex? (indexText i) = some i := by
  rw [indexText, parseIndex?_intText, if_pos (by omega)]
  simp

/-- A text that is read as an index is the text of that index. -/
theorem indexText_of_parseIndex? {s : String} {i : UInt32} (h : parseIndex? s = some i) :
    indexText i = s := by
  simp only [parseIndex?] at h
  split at h
  · cases h
  · rename_i hshape
    simp only [Bool.or_eq_true, not_or, List.isEmpty_iff, Bool.not_eq_true', Bool.not_eq_false]
      at hshape
    obtain ⟨⟨hne, -⟩, hd⟩ := hshape
    split at h
    · cases h
    · rename_i hzero
      split at h
      · rename_i hle
        have hi : i.toNat = digitsValue s.toList := by
          rw [← Option.some.inj h]
          exact UInt32.toNat_ofNat_of_lt' (Nat.lt_of_le_of_lt hle (by decide))
        have hds : Nat.toDigits 10 (digitsValue s.toList) = s.toList := by
          by_cases hhead : s.toList.head? = some '0'
          · -- a leading zero stands alone
            have hlen : s.toList.length = 1 := by
              have := List.length_pos_iff.2 hne
              simp only [hhead, beq_self_eq_true, Bool.and_true, decide_eq_true_eq] at hzero
              omega
            obtain ⟨c, hc⟩ := List.length_eq_one_iff.1 hlen
            rw [hc] at hhead ⊢
            obtain rfl : c = '0' := by simpa using hhead
            rfl
          · exact (toDigits_digitsValue hne hd hhead).2
        have hnonneg : ¬ ((i.toNat : Int) < 0) := by omega
        rw [indexText, intText, if_neg hnonneg, Int.natAbs_natCast, hi, hds, String.ofList_toList]
      · cases h

/-- Different indices have different texts. -/
theorem indexText_inj {i j : UInt32} (hi : i.toNat ≤ maxIndex) (hj : j.toNat ≤ maxIndex)
    (h : indexText i = indexText j) : i = j := by
  have := parseIndex?_indexText hi
  rw [h, parseIndex?_indexText hj] at this
  exact (Option.some.inj this).symm

end Key

end AdaptiveTree
