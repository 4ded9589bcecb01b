import AdaptiveTree.Pattern.AsciiClasses
import Mathlib.Data.List.Basic

/-!
# Escapes that are spelled out

A pattern is read as tokens: a backslash with the character after it, or one character. Spelling out
the ASCII classes goes through the tokens one by one (`asciiClassesFrom_eq`): an escape that has a
form where it stands is replaced by the form, and every other token stays. Each form is a text of
whole tokens, so that the spelled-out pattern is read as the tokens of the forms and those that
stayed (`tokens_asciiClassesFrom`). So no escape for digits or word characters is left, and all else
is where it was (`asciiClasses_tokens`).
-/

set_option autoImplicit false

namespace AdaptiveTree.Pattern

/-- A part of a pattern as it is read from the left: a backslash with the character after it, or one
character. -/
inductive Token where
  | escape (c : Char)
  | single (c : Char)
deriving DecidableEq, Repr

namespace Token

/-- The token as it is written. -/
def text : Token → List Char
  | .escape c => ['\\', c]
  | .single c => [c]

/-- Whether the token is an escape for digits or word characters, or for all others. -/
def isClassEscape : Token → Bool
  | .escape c => c = 'd' || c = 'D' || c = 'w' || c = 'W'
  | .single _ => false

/-- Whether the token is an escape for a word boundary, or for all other places. -/
def isBoundary : Token → Bool
  | .escape c => c = 'b' || c = 'B'
  | .single _ => false

/-- Whether what comes after the token stands in brackets. -/
def inClassAfter (inClass : Bool) : Token → Bool
  | .escape _ => inClass
  | .single c => if c = '[' then true else if c = ']' then false else inClass

/-- The text that the token is spelled out to, if it is. -/
def form? (inClass : Bool) : Token → Option String
  | .escape c => asciiForm inClass c
  | .single _ => none

/-- The text that stands for the token after spelling out. -/
def spelled (inClass : Bool) (t : Token) : List Char :=
  match t.form? inClass with
  | some form => form.toList
  | none => t.text

end Token

/-- The tokens of a pattern. A backslash at the end is a character. -/
def tokens : List Char → List Token
  | [] => []
  | '\\' :: c :: cs => .escape c :: tokens cs
  | c :: cs => .single c :: tokens cs

/-- A token at its place: whether it stands in brackets. -/
structure Placed where
  inClass : Bool
  token : Token
deriving DecidableEq, Repr

namespace Placed

/-- Whether the token is one of those that are spelled out: an escape for digits or word characters,
or outside brackets one for word boundaries. -/
def isRespelled (p : Placed) : Bool :=
  p.token.isClassEscape || p.token.isBoundary && !p.inClass

/-- The token as it is written. -/
def text (p : Placed) : List Char :=
  p.token.text

/-- The text that stands for the token after spelling out. -/
def spelled (p : Placed) : List Char :=
  p.token.spelled p.inClass

end Placed

/-- Tokens at their places, the first of them in brackets or not. An opening bracket counts outside
brackets and the first closing one after it ends them. -/
def placed : Bool → List Token → List Placed
  | _, [] => []
  | inClass, t :: ts => ⟨inClass, t⟩ :: placed (t.inClassAfter inClass) ts

/-- The tokens of a pattern at their places. -/
def pieces (source : String) : List Placed :=
  placed false (tokens source.toList)

/-- The tokens of the texts that stand for some tokens. -/
def spelledTokens (inClass : Bool) (ts : List Token) : List Token :=
  (placed inClass ts).flatMap fun p => tokens p.spelled

/-! ## Tokens -/

@[simp] theorem tokens_escape (c : Char) (cs : List Char) :
    tokens ('\\' :: c :: cs) = .escape c :: tokens cs :=
  rfl

theorem tokens_single {c : Char} (hc : c ≠ '\\') (cs : List Char) :
    tokens (c :: cs) = .single c :: tokens cs := by
  rw [tokens]
  exact fun _ _ h => absurd h hc

/-- The tokens of a pattern make up the pattern. -/
theorem flatMap_text_tokens (cs : List Char) : (tokens cs).flatMap Token.text = cs := by
  fun_induction tokens cs <;> simp_all [Token.text]

/-- What follows a text of whole tokens is read as it is by itself. -/
def Whole (cs : List Char) : Prop :=
  ∀ rest, tokens (cs ++ rest) = tokens cs ++ tokens rest

theorem whole_of_asciiForm {inClass : Bool} {c : Char} {form : String}
    (h : asciiForm inClass c = some form) : Whole form.toList := by
  unfold asciiForm at h
  split at h <;> cases h <;> exact fun _ => rfl

/-! ## Spelling out -/

/-- A token stays in brackets, or outside, unless it is the bracket that closes or opens them. -/
theorem Token.inClassAfter_single {inClass : Bool} {c : Char} (hopen : inClass = false → c ≠ '[')
    (hclose : inClass = true → c ≠ ']') : (single c).inClassAfter inClass = inClass := by
  cases inClass
  · simp [inClassAfter, hopen]
  · simp [inClassAfter, hclose]

/-- The tokens that have a form at their place are those that are to be spelled out. -/
theorem Placed.isRespelled_iff {p : Placed} :
    p.isRespelled = true ↔ ∃ form, p.token.form? p.inClass = some form := by
  obtain ⟨inClass, t⟩ := p
  cases t with
  | single c => simp [isRespelled, Token.isClassEscape, Token.isBoundary, Token.form?]
  | escape c =>
    simp only [isRespelled, Token.isClassEscape, Token.isBoundary, Token.form?]
    unfold asciiForm
    split <;> grind

theorem Placed.spelled_of_kept {p : Placed} (h : p.isRespelled = false) : p.spelled = p.text := by
  have hform : p.token.form? p.inClass = none := by
    rw [Option.eq_none_iff_forall_ne_some]
    intro form hform
    simp [isRespelled_iff.2 ⟨form, hform⟩] at h
  simp [spelled, Token.spelled, text, hform]

@[simp] theorem tokens_text (t : Token) : tokens t.text = [t] := by
  cases t with
  | escape c => rfl
  | single c =>
    by_cases hc : c = '\\'
    · subst hc
      rfl
    · exact tokens_single hc []

/-- The spelled-out pattern is read as the tokens of the texts that stand for the tokens of the
pattern. -/
theorem tokens_asciiClassesFrom (inClass : Bool) (cs : List Char) :
    tokens (asciiClassesFrom inClass cs) = spelledTokens inClass (tokens cs) := by
  unfold spelledTokens
  fun_induction asciiClassesFrom inClass cs with
  | case1 => rfl
  | case2 => rfl
  | case3 inClass c cs form hform ih =>
    rw [whole_of_asciiForm hform, ih]
    simp [placed, Placed.spelled, Token.spelled, Token.form?, Token.inClassAfter, hform]
  | case4 inClass c cs hform ih =>
    simp [placed, Placed.spelled, Token.spelled, Token.form?, Token.inClassAfter, hform, ih]
  | case5 cs ih => rw [tokens_single (by decide), ih]; rfl
  | case6 cs ih => rw [tokens_single (by decide), ih]; rfl
  | case7 inClass c cs hlast hescape hopen hclose ih =>
    have hc : c ≠ '\\' := by
      rintro rfl
      cases cs with
      | nil => exact hlast rfl rfl
      | cons d ds => exact hescape d ds rfl rfl
    have hkept : Placed.spelled ⟨inClass, .single c⟩ = Token.text (.single c) := rfl
    rw [tokens_single hc, tokens_single hc, placed, Token.inClassAfter_single hopen hclose,
      List.flatMap_cons, ← ih, hkept, tokens_text]
    rfl

/-- Spelling out replaces each token by the text that stands for it at its place. -/
theorem asciiClassesFrom_eq (inClass : Bool) (cs : List Char) :
    asciiClassesFrom inClass cs = (placed inClass (tokens cs)).flatMap Placed.spelled := by
  rw [← flatMap_text_tokens (asciiClassesFrom inClass cs), tokens_asciiClassesFrom,
    spelledTokens, List.flatMap_assoc]
  simp only [flatMap_text_tokens]

theorem flatMap_text_placed (inClass : Bool) (ts : List Token) :
    (placed inClass ts).flatMap Placed.text = ts.flatMap Token.text := by
  induction ts generalizing inClass with
  | nil => rfl
  | cons t ts ih => rw [placed, List.flatMap_cons, List.flatMap_cons, ih]; rfl

/-- No form has an escape for digits or word characters. -/
theorem isClassEscape_of_form {inClass : Bool} {c : Char} {form : String} {t : Token}
    (h : asciiForm inClass c = some form) (ht : t ∈ tokens form.toList) :
    t.isClassEscape = false := by
  have hall : (tokens form.toList).all (!·.isClassEscape) = true := by
    unfold asciiForm at h
    split at h <;> cases h <;> rfl
  simpa using List.all_eq_true.1 hall t ht

theorem isClassEscape_of_spelled {p : Placed} {t : Token} (ht : t ∈ tokens p.spelled) :
    t.isClassEscape = false := by
  cases hp : p.isRespelled with
  | true =>
    obtain ⟨form, hform⟩ := Placed.isRespelled_iff.1 hp
    rw [Placed.spelled, Token.spelled, hform] at ht
    obtain ⟨inClass, c | c⟩ := p
    · exact isClassEscape_of_form hform ht
    · cases hform
  | false =>
    rw [Placed.spelled_of_kept hp, Placed.text, tokens_text, List.mem_singleton] at ht
    rw [ht]
    exact (Bool.or_eq_false_iff.1 hp).1

/-- Spelling out leaves no escape for digits or word characters, where the spelled-out pattern is
read again from the left. The pattern and the spelled-out one are made up of the same pieces, one
for each token of the pattern. Escapes for digits and word characters are respelled, and those for
word boundaries outside brackets; without these pieces the two are the same text, and each other
token of the pattern is a token of the spelled-out one. -/
theorem asciiClasses_tokens (source : String) :
    (∀ t ∈ tokens (asciiClasses source).toList, t.isClassEscape = false) ∧
      (pieces source).flatMap Placed.text = source.toList ∧
      (pieces source).flatMap Placed.spelled = (asciiClasses source).toList ∧
      ((pieces source).filter (!·.isRespelled)).flatMap Placed.text =
        ((pieces source).filter (!·.isRespelled)).flatMap Placed.spelled ∧
      tokens (asciiClasses source).toList = (pieces source).flatMap fun p =>
        if p.isRespelled then tokens p.spelled else [p.token] := by
  have hresult : (asciiClasses source).toList = asciiClassesFrom false source.toList :=
    String.toList_ofList
  rw [hresult, tokens_asciiClassesFrom]
  refine ⟨fun t ht => ?_, ?_, (asciiClassesFrom_eq false source.toList).symm, ?_, ?_⟩
  · obtain ⟨p, -, hp⟩ := List.mem_flatMap.1 ht
    exact isClassEscape_of_spelled hp
  · rw [pieces, flatMap_text_placed, flatMap_text_tokens]
  · refine List.flatMap_congr fun p hp => ?_
    have hkept : p.isRespelled = false := by simpa using List.of_mem_filter hp
    exact (Placed.spelled_of_kept hkept).symm
  · refine List.flatMap_congr fun p _ => ?_
    cases hp : p.isRespelled with
    | true => rfl
    | false => rw [Placed.spelled_of_kept hp, Placed.text, tokens_text]; rfl

end AdaptiveTree.Pattern
