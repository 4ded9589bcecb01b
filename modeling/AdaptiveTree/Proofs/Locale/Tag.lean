import AdaptiveTree.Locale.Tag
import Mathlib

/-!
# The canonical form of a language tag

The case that a subtag gets depends on its length, the kind of its characters, its place, and
whether a subtag of one character came before it. The case that it has decides none of these, and
another case is all that it gets. So a tag and its lower case have one canonical form
(`canonicalTag?_congr`), which has that lower case too (`lower_of_canonicalTag?`). Everything about
canonical forms follows from these two: they are a normal form for tags up to the case of ASCII
letters (`canonicalTag?_normalForm`).
-/

set_option autoImplicit false

namespace AdaptiveTree.Locale

/-! ## Characters -/

theorem toNat_toLower (c : Char) :
    c.toLower.toNat = if 65 ≤ c.toNat ∧ c.toNat ≤ 90 then c.toNat + 32 else c.toNat := by
  have hupper : c.isUpper ↔ 65 ≤ c.toNat ∧ c.toNat ≤ 90 := by
    simp [Char.isUpper, UInt32.le_iff_toNat_le]
  split
  · rename_i h
    rw [Char.toLower_eq_of_isUpper (hupper.2 h), Char.toNat_ofNat, if_pos]
    exact Or.inl (by omega)
  · rename_i h
    rw [Char.toLower_eq_of_not_isUpper (mt hupper.1 h)]

@[simp] theorem isDigit_toLower (c : Char) : c.toLower.isDigit = c.isDigit := by
  have h := toNat_toLower c
  have hdigit : ∀ d : Char, d.isDigit = (decide (48 ≤ d.toNat) && decide (d.toNat ≤ 57)) :=
    fun d => by simp [Char.isDigit, UInt32.le_iff_toNat_le]
  rw [hdigit, hdigit, h]
  split <;> grind

@[simp] theorem isAlphanum_toLower (c : Char) : c.toLower.isAlphanum = c.isAlphanum := by
  simp [Char.isAlphanum]

@[simp] theorem toLower_eq_hyphen {c : Char} : c.toLower = '-' ↔ c = '-' := by
  have h := toNat_toLower c
  have hhyphen : ∀ d : Char, d = '-' ↔ d.toNat = 45 := fun d => by
    rw [← Char.toNat_inj]
    rfl
  rw [hhyphen, hhyphen, h]
  split <;> omega

/-! ## Subtags -/

@[simp] theorem length_lower (s : Subtag) : (lower s).length = s.length := by
  simp [lower]

@[simp] theorem isEmpty_lower (s : Subtag) : (lower s).isEmpty = s.isEmpty := by
  simp [lower]

@[simp] theorem lower_lower (s : Subtag) : lower (lower s) = lower s := by
  simp [lower, Function.comp_def]

@[simp] theorem lower_upper (s : Subtag) : lower (upper s) = lower s := by
  simp [lower, upper, Function.comp_def]

@[simp] theorem upper_lower (s : Subtag) : upper (lower s) = upper s := by
  simp [lower, upper, Function.comp_def]

@[simp] theorem lower_capitalize (s : Subtag) : lower (capitalize s) = lower s := by
  cases s <;> simp [capitalize, lower, Function.comp_def]

@[simp] theorem capitalize_lower (s : Subtag) : capitalize (lower s) = capitalize s := by
  cases s <;> simp [capitalize, lower, Function.comp_def]

/-- What is tested of all characters of a subtag does not depend on case if the test does not. -/
theorem all_lower {p : Char → Bool} (hp : ∀ c, p c.toLower = p c) (s : Subtag) :
    (lower s).all p = s.all p := by
  simp [lower, List.all_map, Function.comp_def, hp]

@[simp] theorem isSubtag_lower (s : Subtag) : isSubtag (lower s) = isSubtag s := by
  simp [isSubtag, all_lower isAlphanum_toLower]

@[simp] theorem isLanguage_lower (s : Subtag) : isLanguage (lower s) = isLanguage s := by
  simp [isLanguage, all_lower Char.isAlpha_toLower_eq_isAlpha]

/-! ## Lists of subtags -/

@[simp] theorem canonicalSubtag?_lower (second : Bool) (s : Subtag) :
    canonicalSubtag? second (lower s) = canonicalSubtag? second s := by
  simp [canonicalSubtag?, all_lower Char.isAlpha_toLower_eq_isAlpha, all_lower isDigit_toLower]

theorem lower_of_canonicalSubtag? {second : Bool} {s c : Subtag}
    (h : canonicalSubtag? second s = some c) : lower c = lower s := by
  unfold canonicalSubtag? at h
  split_ifs at h <;> cases h <;> simp

@[simp] theorem canonicalRest?_lower (second : Bool) (ss : List Subtag) :
    canonicalRest? second (ss.map lower) = canonicalRest? second ss := by
  induction ss generalizing second with
  | nil => rfl
  | cons s rest ih => simp [canonicalRest?, ih, Function.comp_def]

theorem lower_of_canonicalRest? {second : Bool} {ss cs : List Subtag}
    (h : canonicalRest? second ss = some cs) : cs.map lower = ss.map lower := by
  induction ss generalizing second cs with
  | nil =>
    cases h
    rfl
  | cons s rest ih =>
    simp only [canonicalRest?] at h
    split at h
    · cases h
      simp [Function.comp_def]
    · obtain ⟨c, hc, h⟩ := Option.bind_eq_some_iff.1 h
      obtain ⟨ds, hds, rfl⟩ := Option.map_eq_some_iff.1 h
      rw [List.map_cons, List.map_cons, lower_of_canonicalSubtag? hc, ih hds]

@[simp] theorem endsInSingleton_lower (ss : List Subtag) :
    endsInSingleton (ss.map lower) = endsInSingleton ss := by
  unfold endsInSingleton
  rw [List.getLast?_map]
  cases ss.getLast? <;> simp

@[simp] theorem canonicalSubtags?_lower (ss : List Subtag) :
    canonicalSubtags? (ss.map lower) = canonicalSubtags? ss := by
  cases ss with
  | nil => rfl
  | cons language rest => simp [canonicalSubtags?, List.all_map, Function.comp_def]

theorem lower_of_canonicalSubtags? {ss cs : List Subtag} (h : canonicalSubtags? ss = some cs) :
    cs.map lower = ss.map lower := by
  unfold canonicalSubtags? at h
  split at h
  · cases h
  · cases ss with
    | nil => cases h
    | cons language rest =>
      simp only at h
      split at h
      · cases h
      · obtain ⟨ds, hds, rfl⟩ := Option.map_eq_some_iff.1 h
        rw [List.map_cons, List.map_cons, lower_lower, lower_of_canonicalRest? hds]

/-! ## Texts -/

theorem splitHyphens_ne_nil (cs : List Char) : splitHyphens cs ≠ [] := by
  cases cs with
  | nil => simp [splitHyphens]
  | cons c cs =>
    unfold splitHyphens
    split
    · simp
    · split <;> simp

theorem splitHyphens_lower (cs : List Char) :
    splitHyphens (lower cs) = (splitHyphens cs).map lower := by
  induction cs with
  | nil => rfl
  | cons c cs ih =>
    simp only [lower, List.map_cons, splitHyphens, toLower_eq_hyphen] at ih ⊢
    rw [ih]
    split
    · rfl
    · cases splitHyphens cs <;> rfl

theorem joinHyphens_splitHyphens (cs : List Char) : joinHyphens (splitHyphens cs) = cs := by
  induction cs with
  | nil => rfl
  | cons c cs ih =>
    simp only [splitHyphens]
    cases hs : splitHyphens cs with
    | nil => exact absurd hs (splitHyphens_ne_nil cs)
    | cons s rest =>
      rw [hs] at ih
      split
      · rename_i hc
        simp only [joinHyphens, List.nil_append, ih, hc]
      · cases rest with
        | nil => simpa [joinHyphens] using ih
        | cons r rest => simpa [joinHyphens] using ih

theorem joinHyphens_lower (ss : List Subtag) :
    joinHyphens (ss.map lower) = lower (joinHyphens ss) := by
  fun_induction joinHyphens ss with
  | case1 => rfl
  | case2 => rfl
  | case3 s rest hrest ih =>
    cases rest with
    | nil => exact absurd rfl hrest
    | cons r rest => simp_all [joinHyphens, lower]

/-! ## Tags -/

/-- The texts are equal but for the case of ASCII letters. -/
def EqUpToCase (s t : String) : Prop :=
  lower s.toList = lower t.toList

instance (s t : String) : Decidable (EqUpToCase s t) :=
  inferInstanceAs (Decidable (lower s.toList = lower t.toList))

/-- The case in which a tag is written has no influence on its canonical form. -/
theorem canonicalTag?_congr {s t : String} (h : EqUpToCase s t) :
    canonicalTag? s = canonicalTag? t := by
  have hsubtags : (splitHyphens s.toList).map lower = (splitHyphens t.toList).map lower := by
    rw [← splitHyphens_lower, ← splitHyphens_lower, h]
  rw [canonicalTag?, canonicalTag?, ← canonicalSubtags?_lower, hsubtags, canonicalSubtags?_lower]

/-- The canonical form of a tag differs from it in case only. -/
theorem eqUpToCase_of_canonicalTag? {s c : String} (h : canonicalTag? s = some c) :
    EqUpToCase c s := by
  obtain ⟨cs, hcs, rfl⟩ := Option.map_eq_some_iff.1 h
  rw [EqUpToCase, String.toList_ofList, ← joinHyphens_lower, lower_of_canonicalSubtags? hcs,
    joinHyphens_lower, joinHyphens_splitHyphens]

/-- Canonical tags are a normal form for the case of ASCII letters: whether a text is a tag does not
depend on case, a tag differs from its canonical form in case only, the canonical form is its own
one, and two tags have the same canonical form exactly when they differ in case only. -/
theorem canonicalTag?_normalForm (s t : String) :
    (EqUpToCase s t → ((canonicalTag? s).isSome ↔ (canonicalTag? t).isSome)) ∧
      (∀ c, canonicalTag? s = some c → EqUpToCase c s ∧ canonicalTag? c = some c) ∧
      ∀ c d, canonicalTag? s = some c → canonicalTag? t = some d → (c = d ↔ EqUpToCase s t) := by
  refine ⟨fun h => ?_, fun c hc => ?_, fun c d hc hd => ⟨?_, fun h => ?_⟩⟩
  · rw [canonicalTag?_congr h]
  · have hcs := eqUpToCase_of_canonicalTag? hc
    exact ⟨hcs, (canonicalTag?_congr hcs).trans hc⟩
  · rintro rfl
    exact (eqUpToCase_of_canonicalTag? hc).symm.trans (eqUpToCase_of_canonicalTag? hd)
  · have hsame := canonicalTag?_congr h
    rw [hc, hd] at hsame
    exact Option.some.inj hsame

theorem canonicalTag?_normalForm_chinese :
    let s := "zh-hANS-cn-U-co-Pinyin"
    let t := "ZH-hans-CN-u-CO-pinYIN"
    let c := "zh-Hans-CN-u-co-pinyin"
    (EqUpToCase s t ∧ canonicalTag? s = some c ∧ canonicalTag? t = some c) ∧
      ((canonicalTag? s).isSome ↔ (canonicalTag? t).isSome) ∧
      (EqUpToCase c s ∧ canonicalTag? c = some c) ∧ (c = c ↔ EqUpToCase s t) := by
  intro s t c
  have hst : EqUpToCase s t := by decide
  have hs : canonicalTag? s = some c := by decide
  have ht : canonicalTag? t = some c := by decide
  obtain ⟨haccepted, hcanonical, hequal⟩ := canonicalTag?_normalForm s t
  exact ⟨⟨hst, hs, ht⟩, haccepted hst, hcanonical c hs, hequal c c hs ht⟩

end AdaptiveTree.Locale
