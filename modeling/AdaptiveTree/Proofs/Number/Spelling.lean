import AdaptiveTree.Proofs.Number.Nearest
import AdaptiveTree.Value

/-!
# Texts that spell a number

The texts that convert to a number, as a grammar: blanks around nothing, a named infinity, a
hexadecimal number below `2^64`, or a decimal (`IsSpelling`). Each reading function succeeds on
exactly the texts of its part of the grammar (`isSome_readExponent?`, `isSome_readUnsigned?`,
`isSome_readDecimal?`, `readHex?_eq_some`), and no result of one is the double that is not a number:
the texts that the library reads by a name are held back, and no decimal is held back with them
(`hasName_of_readName?`, `IsDecimal.hasName`). So a text converts to a number if and only if it is a
spelling with blanks around it, or such a hexadecimal number with a plus sign before its digits
(`Value.isNaN_toNumber_string`). The grammar has no sign there, and `Value.toNumber_string_plus`
shows a text that is read all the same.
-/

set_option autoImplicit false

namespace AdaptiveTree

namespace Number

open Float.Model (Format UnpackedFloat)
open Float.Model.UnpackedFloat

/-! ## Results that are numbers -/

/-- Only an exponent of ones stands for what is no number. -/
theorem unpack_packComponents_ne {s : Sign} {e : BitVec 11} {m : BitVec 52} (he : e ≠ -1#11) :
    UnpackedFloat.unpack Format.binary64 (packComponents Format.binary64 s e m) ≠ .notANumber := by
  unfold UnpackedFloat.unpack
  simp only [unpackMantissa_packComponents, unpackExponent_packComponents]
  rw [if_neg he]
  split
  · split <;> exact nofun
  · exact nofun

theorem unpack_packedInfinity (s : Sign) :
    UnpackedFloat.unpack Format.binary64 (packedInfinity Format.binary64 s) = .infinity s := by
  cases s <;> rfl

/-- What is a number stays one when it is packed. -/
theorem unpack_pack_ne {u : UnpackedFloat} (hu : u ≠ .notANumber) :
    (Float.Model.pack u).unpack ≠ .notANumber := by
  show UnpackedFloat.unpack Format.binary64 (UnpackedFloat.pack Format.binary64 u) ≠ .notANumber
  cases u with
  | notANumber => exact absurd rfl hu
  | infinity s =>
    show UnpackedFloat.unpack Format.binary64 (packedInfinity Format.binary64 s) ≠ _
    rw [unpack_packedInfinity]
    exact nofun
  | zero s => cases s <;> exact nofun
  | finite s m e hm =>
    unfold UnpackedFloat.pack
    simp only
    split
    · rw [unpack_packedInfinity]
      exact nofun
    · rename_i hsmall
      split
      · refine unpack_packComponents_ne fun h => ?_
        have hlt : (e + Format.binary64.exponentBias +
          Format.binary64.mantissaBitsWithoutImplicit).toNat + 1 < 2048 := Nat.lt_of_not_ge hsmall
        have hones : (e + Format.binary64.exponentBias +
          Format.binary64.mantissaBitsWithoutImplicit).toNat % 2048 = 2047 :=
            congrArg BitVec.toNat h
        omega
      · exact unpack_packComponents_ne (by decide)

theorem isNaN_iff (d : Float) : isNaN d = true ↔ d.toModel.unpack = .notANumber := by
  unfold isNaN exact
  cases d.toModel.unpack <;> simp

theorem isNaN_pack {u : UnpackedFloat} (hu : u ≠ .notANumber) :
    isNaN (.ofModel (.pack u)) = false := by
  rw [← Bool.not_eq_true, isNaN_iff]
  exact unpack_pack_ne hu

theorem roundWithAccuracy_ne (s : Sign) (m : Nat) (e : Int) (acc : Accuracy) :
    roundWithAccuracy Format.binary64 s m e acc ≠ .notANumber := by
  unfold roundWithAccuracy
  simp only
  split <;> exact nofun

theorem ofScientific_ne (m : Nat) (e : Int) :
    UnpackedFloat.ofScientific Format.binary64 m e ≠ .notANumber := by
  unfold UnpackedFloat.ofScientific
  split
  · exact nofun
  split
  · exact nofun
  split
  · exact nofun
  split
  · exact roundWithAccuracy_ne _ _ _ _
  · exact roundWithAccuracy_ne _ _ _ _

theorem isNaN_nearest (negative : Bool) (m : Nat) (e : Int) :
    isNaN (nearest negative m e) = false :=
  isNaN_pack (roundWithAccuracy_ne _ _ _ _)

theorem isNaN_ofDecimal (digits : Nat) (e : Int) : isNaN (ofDecimal digits e) = false :=
  isNaN_pack (ofScientific_ne _ _)

theorem isNaN_infinity (negative : Bool) : isNaN (infinity negative) = false :=
  isNaN_pack nofun

theorem isNaN_neg {d : Float} (hd : isNaN d = false) : isNaN (-d) = false := by
  have hrun : -d = .ofModel (.pack d.toModel.unpack.neg) := rfl
  rw [hrun]
  refine isNaN_pack fun h => ?_
  rw [← Bool.not_eq_true, isNaN_iff] at hd
  cases hu : d.toModel.unpack with
  | notANumber => exact hd hu
  | _ =>
    rw [hu] at h
    cases h

/-! ## Spellings -/

/-- Decimal digits, one at least. -/
def AreDigits (cs : List Char) : Prop :=
  cs ≠ [] ∧ ∀ c ∈ cs, c.isDigit = true

/-- A hexadecimal digit and its value, which is its place among the digits in small letters or in
capitals. -/
def IsHexDigit (c : Char) (v : Nat) : Prop :=
  "0123456789abcdef".toList[v]? = some c ∨ "0123456789ABCDEF".toList[v]? = some c

instance (c : Char) (v : Nat) : Decidable (IsHexDigit c v) :=
  inferInstanceAs (Decidable (_ ∨ _))

/-- Hexadecimal digits, one at least, and the number that they denote. -/
def AreHexDigits (cs : List Char) (n : Nat) : Prop :=
  cs ≠ [] ∧ ∃ values, List.Forall₂ IsHexDigit cs values ∧ Nat.ofDigits 16 values.reverse = n

/-- The sign of a number or of an exponent, which may be left out. -/
inductive IsSign : List Char → Prop
  | none : IsSign []
  | plus : IsSign ['+']
  | minus : IsSign ['-']

/-- The exponent part of a decimal, which may be left out. -/
inductive IsExponent : List Char → Prop
  | none : IsExponent []
  | some {e : Char} {sign digits : List Char} : e = 'e' ∨ e = 'E' → IsSign sign →
      AreDigits digits → IsExponent (e :: (sign ++ digits))

/-- A decimal without a sign: digits with an optional fraction, or a fraction alone, and an exponent
part. -/
inductive IsUnsigned : List Char → Prop
  | whole {digits exponent : List Char} : AreDigits digits → IsExponent exponent →
      IsUnsigned (digits ++ exponent)
  | point {whole fraction exponent : List Char} : (∀ c ∈ whole, c.isDigit = true) →
      (∀ c ∈ fraction, c.isDigit = true) → whole ≠ [] ∨ fraction ≠ [] → IsExponent exponent →
      IsUnsigned (whole ++ '.' :: (fraction ++ exponent))

/-- A decimal. -/
inductive IsDecimal : List Char → Prop
  | mk {sign number : List Char} : IsSign sign → IsUnsigned number → IsDecimal (sign ++ number)

/-- A hexadecimal number, with `sign` in front of its digits. -/
inductive IsHex (sign : List Char) : List Char → Nat → Prop
  | mk {x : Char} {digits : List Char} {n : Nat} : x = 'x' ∨ x = 'X' → AreHexDigits digits n →
      IsHex sign ('0' :: x :: (sign ++ digits)) n

/-- The texts without blanks around them that are the spelling of a number. -/
inductive IsSpelling : List Char → Prop
  | empty : IsSpelling []
  | infinity {sign : List Char} : IsSign sign → IsSpelling (sign ++ "Infinity".toList)
  | hex {cs : List Char} {n : Nat} : IsHex [] cs n → n < 18446744073709551616 → IsSpelling cs
  | decimal {cs : List Char} : IsDecimal cs → IsSpelling cs

/-! ## Where digits end -/

section

variable {p : Char → Bool} {as cs : List Char}

/-- The text does not begin with a character of `p`. -/
def Stops (p : Char → Bool) (cs : List Char) : Prop :=
  ∀ c ∈ cs.head?, p c = false

theorem takeWhile_of_stops (has : ∀ c ∈ as, p c = true) (hcs : Stops p cs) :
    (as ++ cs).takeWhile p = as := by
  rw [List.takeWhile_append_of_pos has]
  cases cs with
  | nil => simp
  | cons c cs => simp [hcs c rfl]

theorem dropWhile_of_stops (has : ∀ c ∈ as, p c = true) (hcs : Stops p cs) :
    (as ++ cs).dropWhile p = cs := by
  rw [List.dropWhile_append_of_pos has]
  cases cs with
  | nil => rfl
  | cons c cs => simp [hcs c rfl]

theorem stops_dropWhile (p : Char → Bool) (cs : List Char) : Stops p (cs.dropWhile p) := by
  intro c hc
  have := List.head?_dropWhile_not p cs
  rw [Option.mem_def.1 hc] at this
  simpa using this

theorem all_takeWhile (p : Char → Bool) (cs : List Char) : ∀ c ∈ cs.takeWhile p, p c = true :=
  fun _ hc => List.mem_takeWhile_imp hc

end

/-! ## Decimals -/

section

variable {cs : List Char}

theorem takeSign_sign (cs : List Char) : ∃ sign, IsSign sign ∧ cs = sign ++ (takeSign cs).2 := by
  unfold takeSign
  split
  · exact ⟨['-'], .minus, rfl⟩
  · exact ⟨['+'], .plus, rfl⟩
  · exact ⟨[], .none, rfl⟩

theorem takeSign_append {sign rest : List Char} (hsign : IsSign sign)
    (hrest : Stops (fun c => c = '-' || c = '+') rest) : (takeSign (sign ++ rest)).2 = rest := by
  cases hsign with
  | plus => rfl
  | minus => rfl
  | none =>
    rw [List.nil_append]
    unfold takeSign
    split
    · exact absurd (hrest '-' rfl) (by decide)
    · exact absurd (hrest '+' rfl) (by decide)
    · rfl

theorem ne_of_isDigit {c d : Char} (hc : c.isDigit = true) (hd : d.isDigit = false) : c ≠ d := by
  rintro rfl
  exact absurd hc (by simp [hd])

/-- A text that begins with a digit does not begin with a sign. -/
theorem stops_sign_of_digits {digits : List Char} (hdigits : AreDigits digits) (cs : List Char) :
    Stops (fun c => c = '-' || c = '+') (digits ++ cs) := by
  intro c hc
  rw [List.head?_append_of_ne_nil _ hdigits.1] at hc
  have hdigit := hdigits.2 c (List.mem_of_mem_head? hc)
  simp [ne_of_isDigit hdigit (d := '-') rfl, ne_of_isDigit hdigit (d := '+') rfl]

theorem isSome_readExponent?_cons {e : Char} {rest : List Char} :
    (readExponent? (e :: rest)).isSome = true ↔
      (e = 'e' ∨ e = 'E') ∧ AreDigits (takeSign rest).2 := by
  have hdigits : (takeSign rest).2.isEmpty ∨ ¬ (takeSign rest).2.all Char.isDigit ↔
      ¬ AreDigits (takeSign rest).2 := by
    simp only [AreDigits, List.isEmpty_iff, List.all_eq_true, ne_eq]
    tauto
  by_cases he : e = 'e' ∨ e = 'E'
  · simp only [readExponent?, if_pos he, hdigits, and_iff_right he]
    split
    · simp_all
    · split <;> simp_all
  · simp [readExponent?, he]

theorem isSome_readExponent? : (readExponent? cs).isSome = true ↔ IsExponent cs := by
  constructor
  · intro h
    cases cs with
    | nil => exact .none
    | cons e rest =>
      obtain ⟨he, hdigits⟩ := isSome_readExponent?_cons.1 h
      obtain ⟨sign, hsign, hrest⟩ := takeSign_sign rest
      rw [hrest]
      exact .some he hsign hdigits
  · rintro (_ | ⟨he, hsign, hdigits⟩)
    · rfl
    · refine isSome_readExponent?_cons.2 ⟨he, ?_⟩
      have hstops := stops_sign_of_digits hdigits []
      rw [List.append_nil] at hstops
      rwa [takeSign_append hsign hstops]

theorem IsExponent.stops_digit (hcs : IsExponent cs) : Stops Char.isDigit cs := by
  cases hcs with
  | none => exact nofun
  | some he =>
    rintro c ⟨⟩
    rcases he with rfl | rfl <;> rfl

/-- Digits with a point are read as the digits on both sides of it and an exponent part. -/
theorem isSome_readUnsigned?_point {whole fraction exponent : List Char}
    (hwhole : ∀ c ∈ whole, c.isDigit = true) (hfraction : ∀ c ∈ fraction, c.isDigit = true)
    (hexponent : Stops Char.isDigit exponent) :
    (readUnsigned? (whole ++ '.' :: (fraction ++ exponent))).isSome = true ↔
      (whole ≠ [] ∨ fraction ≠ []) ∧ (readExponent? exponent).isSome = true := by
  have hpoint : Stops Char.isDigit ('.' :: (fraction ++ exponent)) := by
    rintro c ⟨⟩
    rfl
  simp only [readUnsigned?, takeWhile_of_stops hwhole hpoint, dropWhile_of_stops hwhole hpoint,
    takeWhile_of_stops hfraction hexponent, dropWhile_of_stops hfraction hexponent]
  by_cases hempty : whole = [] ∧ fraction = []
  · simp [hempty]
  · simp [hempty, not_and_or.1 hempty]

/-- Digits without a point are read as the digits and an exponent part. -/
theorem isSome_readUnsigned?_whole {digits exponent : List Char}
    (hdigits : ∀ c ∈ digits, c.isDigit = true) (hexponent : Stops Char.isDigit exponent)
    (hpoint : ∀ more, exponent ≠ '.' :: more) :
    (readUnsigned? (digits ++ exponent)).isSome = true ↔
      digits ≠ [] ∧ (readExponent? exponent).isSome = true := by
  simp only [readUnsigned?, takeWhile_of_stops hdigits hexponent,
    dropWhile_of_stops hdigits hexponent]
  by_cases hempty : digits = [] <;> simp [hempty]

theorem isSome_readUnsigned? : (readUnsigned? cs).isSome = true ↔ IsUnsigned cs := by
  constructor
  · intro h
    have hwhole := all_takeWhile Char.isDigit cs
    have hrest := stops_dropWhile Char.isDigit cs
    rw [← List.takeWhile_append_dropWhile (p := Char.isDigit) (l := cs)] at h ⊢
    by_cases hpoint : ∃ more, cs.dropWhile Char.isDigit = '.' :: more
    · obtain ⟨more, hmore⟩ := hpoint
      have hfraction := all_takeWhile Char.isDigit more
      rw [hmore, ← List.takeWhile_append_dropWhile (p := Char.isDigit) (l := more)] at h ⊢
      rw [isSome_readUnsigned?_point hwhole hfraction (stops_dropWhile _ _)] at h
      exact .point hwhole hfraction h.1 (isSome_readExponent?.1 h.2)
    · rw [isSome_readUnsigned?_whole hwhole hrest (not_exists.1 hpoint)] at h
      exact .whole ⟨h.1, hwhole⟩ (isSome_readExponent?.1 h.2)
  · rintro (⟨hdigits, hexponent⟩ | ⟨hwhole, hfraction, hne, hexponent⟩)
    · refine (isSome_readUnsigned?_whole hdigits.2 hexponent.stops_digit ?_).2
        ⟨hdigits.1, isSome_readExponent?.2 hexponent⟩
      rintro more rfl
      cases hexponent with
      | some he => exact absurd he (by decide)
    · exact (isSome_readUnsigned?_point hwhole hfraction hexponent.stops_digit).2
        ⟨hne, isSome_readExponent?.2 hexponent⟩

theorem IsUnsigned.stops_sign (hcs : IsUnsigned cs) : Stops (fun c => c = '-' || c = '+') cs := by
  cases hcs with
  | whole hdigits => exact stops_sign_of_digits hdigits _
  | @point whole _ _ hwhole =>
    rcases eq_or_ne whole [] with rfl | hne
    · rintro c ⟨⟩
      rfl
    · exact stops_sign_of_digits ⟨hne, hwhole⟩ _

/-! ### Names of the library -/

theorem mem_of_hasPart {part : List Char} {c : Char} (hc : c ∈ part)
    (h : hasPart part cs = true) : c ∈ cs := by
  induction cs with
  | nil =>
    rw [hasPart, List.isEmpty_iff] at h
    rwa [h] at hc
  | cons d cs ih =>
    rw [hasPart, Bool.or_eq_true, List.isPrefixOf_iff_prefix] at h
    rcases h with hpre | hrest
    · exact hpre.subset hc
    · exact List.mem_cons_of_mem _ (ih hrest)

theorem hasName_cons (c : Char) (h : hasName cs = true) : hasName (c :: cs) = true := by
  have hpart : ∀ part : List Char, hasPart part (cs.map Char.toLower) = true →
      hasPart part ((c :: cs).map Char.toLower) = true := fun part hp => by
    rw [List.map_cons, hasPart, hp, Bool.or_true]
  rw [hasName, Bool.or_eq_true] at h ⊢
  exact h.imp (hpart _) (hpart _)

/-- What is read by its name has the name in it. -/
theorem hasName_of_readName? (h : (readName? (takeSign cs).2).isSome = true) :
    hasName cs = true := by
  have hname : ∀ name : List Char, (readName? name).isSome = true → hasName name = true := by
    intro name hread
    simp only [readName?] at hread
    simp only [hasName]
    split at hread
    · next hinf => rcases hinf with hinf | hinf <;> rw [hinf] <;> rfl
    split at hread
    · next hnan => rw [hnan]; rfl
    · cases hread
  obtain ⟨sign, hsign, hcs⟩ := takeSign_sign cs
  rw [hcs]
  cases hsign with
  | none => exact hname _ h
  | plus => exact hasName_cons _ (hname _ h)
  | minus => exact hasName_cons _ (hname _ h)

/-- All names have an `n` in them. -/
theorem hasName_eq_false (h : ∀ c ∈ cs, c.toLower ≠ 'n') : hasName cs = false := by
  have hn : 'n' ∉ cs.map Char.toLower := by simpa using h
  rw [← Bool.not_eq_true, hasName, Bool.or_eq_true, not_or]
  exact ⟨mt (mem_of_hasPart (by decide)) hn, mt (mem_of_hasPart (by decide)) hn⟩

theorem toLower_of_isDigit {c : Char} (hc : c.isDigit = true) : c.toLower = c := by
  unfold Char.toLower Char.isDigit at *
  grind

theorem toLower_ne_of_digits {digits : List Char} (hdigits : ∀ c ∈ digits, c.isDigit = true) :
    ∀ c ∈ digits, c.toLower ≠ 'n' := by
  intro c hc hn
  rw [toLower_of_isDigit (hdigits c hc)] at hn
  exact absurd (hdigits c hc) (by simp [hn])

theorem IsSign.toLower_ne (hcs : IsSign cs) : ∀ c ∈ cs, c.toLower ≠ 'n' := by
  cases hcs <;> simp

theorem IsExponent.toLower_ne (hcs : IsExponent cs) : ∀ c ∈ cs, c.toLower ≠ 'n' := by
  cases hcs with
  | none => exact nofun
  | some he hsign hdigits =>
    simp only [List.forall_mem_cons, List.forall_mem_append]
    refine ⟨?_, hsign.toLower_ne, toLower_ne_of_digits hdigits.2⟩
    rcases he with rfl | rfl <;> decide

theorem IsUnsigned.toLower_ne (hcs : IsUnsigned cs) : ∀ c ∈ cs, c.toLower ≠ 'n' := by
  cases hcs with
  | whole hdigits hexponent =>
    exact List.forall_mem_append.2 ⟨toLower_ne_of_digits hdigits.2, hexponent.toLower_ne⟩
  | point hwhole hfraction _ hexponent =>
    simp only [List.forall_mem_cons, List.forall_mem_append]
    exact ⟨toLower_ne_of_digits hwhole, by decide, toLower_ne_of_digits hfraction,
      hexponent.toLower_ne⟩

/-- No decimal has a name in it. -/
theorem IsDecimal.hasName (hcs : IsDecimal cs) : hasName cs = false := by
  cases hcs with
  | mk hsign hnumber =>
    exact hasName_eq_false (List.forall_mem_append.2 ⟨hsign.toLower_ne, hnumber.toLower_ne⟩)

/-! ### Decimals with a sign -/

/-- What the texts that are held back leave of the notation of the library. -/
theorem readDecimal?_eq (h : hasName cs = false) : readDecimal? cs =
    (readUnsigned? (takeSign cs).2).map fun d => if (takeSign cs).1 then -d else d := by
  have hname : readName? (takeSign cs).2 = none := by
    rw [← Option.not_isSome_iff_eq_none]
    exact fun hread => by simp [hasName_of_readName? hread] at h
  rw [readDecimal?, h, readFloat?]
  simp only [hname, Option.none_or]
  rfl

theorem isSome_readDecimal? : (readDecimal? cs).isSome = true ↔ IsDecimal cs := by
  constructor
  · intro h
    have hheld : hasName cs = false := by
      by_contra hname
      rw [Bool.not_eq_false] at hname
      simp [readDecimal?, hname] at h
    rw [readDecimal?_eq hheld, Option.isSome_map, isSome_readUnsigned?] at h
    obtain ⟨sign, hsign, hcs⟩ := takeSign_sign cs
    rw [hcs]
    exact .mk hsign h
  · intro h
    rw [readDecimal?_eq h.hasName, Option.isSome_map, isSome_readUnsigned?]
    cases h with
    | mk hsign hnumber => rwa [takeSign_append hsign hnumber.stops_sign]

/-- Whether a text is a decimal is decided by reading it. -/
instance (cs : List Char) : Decidable (IsDecimal cs) :=
  decidable_of_iff _ isSome_readDecimal?

/-! ## Hexadecimal numbers -/

theorem foldDigits_eq (value : Char → Option Nat) (base acc : Nat) (cs : List Char) :
    foldDigits value base acc cs =
      (cs.mapM value).map fun values => values.foldl (fun n v => n * base + v) acc := by
  induction cs generalizing acc with
  | nil => rfl
  | cons c cs ih =>
    rw [foldDigits, List.mapM_cons]
    cases value c with
    | none => rfl
    | some v => 
      simp only [ih]
      cases cs.mapM value <;> rfl

/-- The digits in small letters and in capitals stand at the code points that the reader takes. -/
theorem hexValue?_eq_some {c : Char} {v : Nat} : hexValue? c = some v ↔ IsHexDigit c v := by
  constructor
  · intro h
    -- no code point above that of the last small digit has a value
    have hlt : c.toNat < 103 := by
      have hle : ∀ {hi : Char}, c ≤ hi → c.toNat ≤ hi.toNat := id
      unfold hexValue? at h
      split at h
      · next hc => exact (hle hc.2).trans_lt (by decide)
      split at h
      · next hc => exact (hle hc.2).trans_lt (by decide)
      split at h
      · next hc => exact (hle hc.2).trans_lt (by decide)
      · cases h
    have hdigits : ∀ n < 103, ∀ w ∈ hexValue? (Char.ofNat n), IsHexDigit (Char.ofNat n) w := by
      decide +kernel
    have hdigit := hdigits c.toNat hlt v
    rw [Char.ofNat_toNat] at hdigit
    exact hdigit h
  · have hplace : ∀ {digits : List Char},
        (∀ w < digits.length, hexValue? (digits.getD w '0') = some w) →
        digits[v]? = some c → hexValue? c = some v := by
      intro digits hall h
      obtain ⟨hv, -⟩ := List.getElem?_eq_some_iff.1 h
      have hvalue := hall v hv
      rwa [List.getD_eq_getElem?_getD, h] at hvalue
    rintro (h | h)
    · exact hplace (by decide) h
    · exact hplace (by decide) h

theorem mapM_hexValue? {values : List Nat} :
    cs.mapM hexValue? = some values ↔ List.Forall₂ IsHexDigit cs values := by
  induction cs generalizing values with
  | nil =>
    rw [List.mapM_nil, List.forall₂_nil_left_iff]
    exact ⟨fun h => (Option.some.inj h).symm, fun h => congrArg some h.symm⟩
  | cons c cs ih =>
    simp only [List.mapM_cons, List.forall₂_cons_left_iff, ← ih, ← hexValue?_eq_some,
      Option.bind_eq_bind, Option.bind_eq_some_iff, Option.pure_def, Option.some.injEq]
    constructor
    · rintro ⟨v, hv, vs, hvs, rfl⟩
      exact ⟨v, vs, hv, hvs, rfl⟩
    · rintro ⟨v, vs, hv, hvs, rfl⟩
      exact ⟨v, hv, vs, hvs, rfl⟩
theorem foldDigits_hex {n : Nat} : foldDigits hexValue? 16 0 cs = some n ↔
    ∃ values, List.Forall₂ IsHexDigit cs values ∧ Nat.ofDigits 16 values.reverse = n := by
  have hvalue : ∀ values : List Nat,
      values.foldl (fun n v => n * 16 + v) 0 = Nat.ofDigits 16 values.reverse := fun values => by
    rw [Nat.ofDigits_eq_foldr, List.foldr_reverse]
    simp only [Nat.cast_id, Nat.add_comm, Nat.mul_comm]
  simp only [foldDigits_eq, Option.map_eq_some_iff, hvalue, mapM_hexValue?]

theorem not_areHexDigits_plus {digits : List Char} {n : Nat} :
    ¬ AreHexDigits ('+' :: digits) n := by
  rintro ⟨-, values, hvalues, -⟩
  have hnone : hexValue? '+' = none := rfl
  cases hvalues with
  | cons hplus =>
    rw [← hexValue?_eq_some, hnone] at hplus
    cases hplus

/-- A hexadecimal number is read from digits, with or without a plus sign before them. -/
theorem readHex?_eq_some {n : Nat} : readHex? cs = some n ↔ n < 18446744073709551616 ∧
    ∃ sign digits, (sign = [] ∨ sign = ['+']) ∧ cs = sign ++ digits ∧ AreHexDigits digits n := by
  have hdigits : ∀ digits : List Char, (if digits.isEmpty then none else
      (foldDigits hexValue? 16 0 digits).bind fun n =>
        if n < 18446744073709551616 then some n else none) = some n ↔
      n < 18446744073709551616 ∧ AreHexDigits digits n := fun digits => by
    simp only [AreHexDigits, ← foldDigits_hex]
    cases foldDigits hexValue? 16 0 digits with
    | none => simp
    | some m =>
      simp only [Option.bind_some, Option.some.injEq]
      grind
  by_cases hplus : cs.head? = some '+'
  · obtain ⟨rest, rfl⟩ : ∃ rest, cs = '+' :: rest := by
      cases cs with
      | nil => cases hplus
      | cons c rest => exact ⟨rest, by cases hplus; rfl⟩
    refine (hdigits rest).trans (and_congr_right fun _ => ⟨fun h => ?_, ?_⟩)
    · exact ⟨['+'], rest, .inr rfl, rfl, h⟩
    · rintro ⟨_, digits, rfl | rfl, hrest, h⟩
      · rw [List.nil_append] at hrest
        exact absurd (hrest ▸ h) not_areHexDigits_plus
      · cases hrest
        exact h
  · have hread : readHex? cs = if cs.isEmpty then none else
        (foldDigits hexValue? 16 0 cs).bind fun n =>
          if n < 18446744073709551616 then some n else none := by
      simp only [readHex?, if_neg hplus]
    rw [hread, hdigits]
    refine and_congr_right fun _ => ⟨fun h => ⟨[], cs, .inl rfl, rfl, h⟩, ?_⟩
    rintro ⟨_, digits, rfl | rfl, rfl, h⟩
    · exact h
    · exact absurd rfl hplus

end

/-! ## Blanks around a spelling -/

/-- A text is `core` with blanks around it, and `core` begins and ends with none. -/
structure IsTrimmed (cs core : List Char) : Prop where
  blanks : ∃ before after, cs = before ++ core ++ after ∧
    (∀ c ∈ before, Text.isBlank c = true) ∧ ∀ c ∈ after, Text.isBlank c = true
  first : Stops Text.isBlank core
  last : Stops Text.isBlank core.reverse

/-- Trimming a text gives the text without the blanks around it. -/
theorem isTrimmed_iff {cs core : List Char} : IsTrimmed cs core ↔ core = Text.trimBlanks cs := by
  constructor
  · rintro ⟨⟨before, after, rfl, hbefore, hafter⟩, hfirst, hlast⟩
    rcases eq_or_ne core [] with rfl | hne
    · have hblank : ∀ c ∈ before ++ [] ++ after, Text.isBlank c = true := by
        simpa [or_imp, forall_and] using ⟨hbefore, hafter⟩
      rw [Text.trimBlanks, List.dropWhile_eq_nil_iff.2 hblank]
      rfl
    · have hstops : Stops Text.isBlank (core ++ after) := by
        intro c hc
        rw [List.head?_append_of_ne_nil _ hne] at hc
        exact hfirst c hc
      have hafter' : ∀ c ∈ after.reverse, Text.isBlank c = true := by simpa using hafter
      rw [Text.trimBlanks, List.append_assoc, dropWhile_of_stops hbefore hstops,
        List.reverse_append, dropWhile_of_stops hafter' hlast, List.reverse_reverse]
  · rintro rfl
    obtain ⟨after, hafter, hcut⟩ : ∃ after, (∀ c ∈ after, Text.isBlank c = true) ∧
        cs.dropWhile Text.isBlank = Text.trimBlanks cs ++ after := by
      refine ⟨((cs.dropWhile Text.isBlank).reverse.takeWhile Text.isBlank).reverse, ?_, ?_⟩
      · simpa using all_takeWhile Text.isBlank (cs.dropWhile Text.isBlank).reverse
      · rw [Text.trimBlanks, ← List.reverse_append, List.takeWhile_append_dropWhile,
          List.reverse_reverse]
    refine ⟨⟨cs.takeWhile Text.isBlank, after, ?_, all_takeWhile _ _, hafter⟩, ?_, ?_⟩
    · rw [List.append_assoc, ← hcut, List.takeWhile_append_dropWhile]
    · intro c hc
      refine stops_dropWhile Text.isBlank cs c ?_
      rw [hcut, List.head?_append, Option.mem_def.1 hc]
      rfl
    · rw [Text.trimBlanks, List.reverse_reverse]
      exact stops_dropWhile _ _

/-! ## Texts that are read as a number -/

section

variable {cs : List Char}

/-- The text begins like a hexadecimal number. -/
def BeginsHex (cs : List Char) : Prop :=
  ∃ x rest, (x = 'x' ∨ x = 'X') ∧ cs = '0' :: x :: rest

theorem IsDecimal.not_beginsHex (hcs : IsDecimal cs) : ¬ BeginsHex cs := by
  rintro ⟨x, rest, hx, rfl⟩
  have hread := isSome_readDecimal?.2 hcs
  rw [readDecimal?_eq hcs.hasName] at hread
  rcases hx with rfl | rfl <;> simp [takeSign, readUnsigned?, readExponent?] at hread

theorem readTrimmed?_hex {x : Char} (hx : x = 'x' ∨ x = 'X') (rest : List Char) :
    readTrimmed? ('0' :: x :: rest) = (readHex? rest).map fun n => nearest false n 0 := by
  unfold readTrimmed?
  rw [if_neg (by simp), if_neg (by simp), if_neg (by simp)]
  exact if_pos hx

theorem readTrimmed?_of_not_beginsHex (hcs : ¬ BeginsHex cs) : readTrimmed? cs =
    if cs = [] then some (ofInt 0)
    else if cs = "Infinity".toList ∨ cs = "+Infinity".toList then some (infinity false)
    else if cs = "-Infinity".toList then some (infinity true)
    else readDecimal? cs := by
  unfold readTrimmed?
  congr 3
  split
  · rename_i x rest
    exact if_neg fun hx => hcs ⟨x, rest, hx, rfl⟩
  · rfl

/-- A hexadecimal number, with or without a plus sign before its digits, is read as the double that
it is rounded to. -/
theorem readTrimmed?_of_isHex {sign : List Char} {n : Nat} (hcs : IsHex sign cs n)
    (hsign : sign = [] ∨ sign = ['+']) (hn : n < 18446744073709551616) :
    readTrimmed? cs = some (nearest false n 0) := by
  cases hcs with
  | mk hx hdigits =>
    rw [readTrimmed?_hex hx, readHex?_eq_some.2 ⟨hn, sign, _, hsign, rfl, hdigits⟩]
    rfl

/-- A text without blanks around it is read as a number if it is the spelling of one, or if it is a
hexadecimal number with a plus sign before its digits. -/
theorem isSome_readTrimmed? : (readTrimmed? cs).isSome = true ↔
    IsSpelling cs ∨ ∃ n < 18446744073709551616, IsHex ['+'] cs n := by
  constructor
  · intro h
    by_cases hhex : BeginsHex cs
    · obtain ⟨x, rest, hx, rfl⟩ := hhex
      rw [readTrimmed?_hex hx, Option.isSome_map, Option.isSome_iff_exists] at h
      obtain ⟨n, h⟩ := h
      obtain ⟨hn, sign, digits, rfl | rfl, rfl, hdigits⟩ := readHex?_eq_some.1 h
      · exact .inl (.hex (.mk hx hdigits) hn)
      · exact .inr ⟨n, hn, .mk hx hdigits⟩
    · rw [readTrimmed?_of_not_beginsHex hhex] at h
      split at h
      · next hempty => exact .inl (hempty ▸ .empty)
      split at h
      · next hinfinity =>
        rcases hinfinity with rfl | rfl
        · exact .inl (.infinity .none)
        · exact .inl (.infinity .plus)
      split at h
      · next hinfinity => exact .inl (hinfinity ▸ .infinity .minus)
      · exact .inl (.decimal (isSome_readDecimal?.1 h))
  · rintro (hspelling | ⟨n, hn, hhex⟩)
    · cases hspelling with
      | empty => rfl
      | infinity hsign => cases hsign <;> rfl
      | hex hhex hn => rw [readTrimmed?_of_isHex hhex (.inl rfl) hn]; rfl
      | decimal hdecimal =>
        rw [readTrimmed?_of_not_beginsHex hdecimal.not_beginsHex]
        have hread := isSome_readDecimal?.2 hdecimal
        split_ifs <;> first | rfl | exact hread
    · rw [readTrimmed?_of_isHex hhex (.inr rfl) hn]
      rfl

theorem isNaN_of_readUnsigned? {d : Float} (hd : readUnsigned? cs = some d) :
    isNaN d = false := by
  unfold readUnsigned? at hd
  simp only at hd
  -- with a point and without
  split at hd
  all_goals
    split at hd
    · cases hd
    · obtain ⟨e, -, rfl⟩ := Option.map_eq_some_iff.1 hd
      exact isNaN_ofDecimal _ _

theorem isNaN_of_readDecimal? {d : Float} (hd : readDecimal? cs = some d) : isNaN d = false := by
  have hdecimal : IsDecimal cs := isSome_readDecimal?.1 (by rw [hd]; rfl)
  rw [readDecimal?_eq hdecimal.hasName, Option.map_eq_some_iff] at hd
  obtain ⟨d', hd', rfl⟩ := hd
  have hnumber := isNaN_of_readUnsigned? hd'
  cases (takeSign cs).1 with
  | true => exact isNaN_neg hnumber
  | false => exact hnumber

/-- What a text is read as is a number. -/
theorem isNaN_of_readTrimmed? {d : Float} (hd : readTrimmed? cs = some d) : isNaN d = false := by
  by_cases hhex : BeginsHex cs
  · obtain ⟨x, rest, hx, rfl⟩ := hhex
    rw [readTrimmed?_hex hx] at hd
    obtain ⟨n, -, rfl⟩ := Option.map_eq_some_iff.1 hd
    exact isNaN_nearest _ _ _
  · rw [readTrimmed?_of_not_beginsHex hhex] at hd
    split at hd
    · cases hd
      exact isNaN_nearest _ _ _
    split at hd
    · cases hd
      exact isNaN_infinity _
    split at hd
    · cases hd
      exact isNaN_infinity _
    · exact isNaN_of_readDecimal? hd

theorem isNaN_read_iff (s : String) : isNaN (read s) = false ↔
    (readTrimmed? (Text.trimBlanks s.toList)).isSome = true := by
  unfold read
  cases hd : readTrimmed? (Text.trimBlanks s.toList) with
  | none => exact iff_of_false (by decide) (by decide)
  | some d => exact iff_of_true (isNaN_of_readTrimmed? hd) rfl

end

end Number

/-- The texts that convert to a number: blanks around a spelling of one, where a plus sign may
stand before hexadecimal digits. A hexadecimal number is rounded to the nearest double. -/
theorem Value.isNaN_toNumber_string (s : String) :
    (Number.isNaN (Value.string s).toNumber = false ↔
      ∃ core, Number.IsTrimmed s.toList core ∧ (Number.IsSpelling core ∨
        ∃ n < 18446744073709551616, Number.IsHex ['+'] core n)) ∧
      ∀ sign core n, Number.IsTrimmed s.toList core → Number.IsHex sign core n →
        (sign = [] ∨ sign = ['+']) → n < 18446744073709551616 →
          Number.IsNearest n (Value.string s).toNumber := by
  have hread : (Value.string s).toNumber = Number.read s := rfl
  simp only [hread, Number.isTrimmed_iff, exists_eq_left]
  refine ⟨(Number.isNaN_read_iff s).trans Number.isSome_readTrimmed?, ?_⟩
  rintro sign core n rfl hhex hsign hn
  have hbits : n.log2 ≤ 1022 := by
    rcases Nat.eq_zero_or_pos n with rfl | hpos
    · decide
    · have : n.log2 < 64 := (Nat.log2_lt hpos.ne').2 hn
      omega
  rw [Number.read, Number.readTrimmed?_of_isHex hhex hsign hn]
  exact Number.isNearest_nearest hbits

/-- A text that is no spelling of a number and that reads as five. -/
theorem Value.toNumber_string_plus :
    (¬ ∃ core, Number.IsTrimmed "0x+5".toList core ∧ Number.IsSpelling core) ∧
      Number.isNaN (Value.string "0x+5").toNumber = false ∧
      Number.integer? (Value.string "0x+5").toNumber = some 5 := by
  have htrim : Text.trimBlanks "0x+5".toList = ['0', 'x', '+', '5'] := by decide +kernel
  refine ⟨?_, by decide +kernel, by decide +kernel⟩
  rintro ⟨core, hcore, hspelling⟩
  have hread : core = ['0', 'x', '+', '5'] := (Number.isTrimmed_iff.1 hcore).trans htrim
  cases hspelling with
  | empty => cases hread
  | infinity hsign => cases hsign <;> exact absurd hread (by decide)
  | hex hhex =>
    cases hhex with
    | mk _ hdigits =>
      obtain ⟨-, -, rfl⟩ := hread
      exact Number.not_areHexDigits_plus hdigits
  | decimal hdecimal => exact hdecimal.not_beginsHex ⟨'x', _, .inl rfl, hread⟩

end AdaptiveTree
