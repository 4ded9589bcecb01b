import AdaptiveTree.Locale.ListFormat
import AdaptiveTree.Locale.Tag

/-!
# Locale data

A provider of locales has a default locale and says of any other whether it is available; most
often the available locales are listed. Lookup takes the first requested locale that is available
itself or after subtags are cut off at its end, and falls back to the default.
-/

set_option autoImplicit false

namespace AdaptiveTree.Locale

/-- What lookup asks of a provider of locales. -/
structure Provider where
  defaultLocale : String
  /-- Whether the provider offers the locale. -/
  offers : String → Bool

/-- The locales that a provider offers, as a list. A locale may be offered without list patterns of
its language. -/
structure Data where
  defaultLocale : String
  available : List String
deriving DecidableEq, Repr

namespace Data

/-- The canonical form of a tag; what is not a tag stays as it is. -/
def canonicalOrSelf (tag : String) : String :=
  (canonicalTag? tag).getD tag

/-- A provider of the given locales, in canonical form. -/
def ofTags (defaultLocale : String) (available : List String) : Data :=
  ⟨canonicalOrSelf defaultLocale, available.map canonicalOrSelf⟩

/-- The provider of the bundled languages. -/
def bundled : Data :=
  ofTags "en" ["en", "de", "fr", "es"]

/-- Whether the provider offers the locale. -/
def offers (d : Data) (locale : String) : Bool :=
  d.available.contains locale

/-- The provider of the listed locales. -/
def provider (d : Data) : Provider where
  defaultLocale := d.defaultLocale
  offers := d.offers

end Data

/-- A tag reversed without its last subtag, which begins the reversed tag; none when there is only
one subtag. -/
def dropLastSubtag? : List Char → Option (List Char)
  | [] => none
  | c :: cs => if c = '-' then some cs else dropLastSubtag? cs

/-- A reversed tag without a subtag of one character at its end. -/
def dropSingleton : List Char → List Char
  | _ :: '-' :: cs => cs
  | cs => cs

/-- The next shorter tag to try, reversed: one subtag less, and one more if that leaves a subtag of
one character at the end. -/
def shorter? (reversed : List Char) : Option (List Char) :=
  (dropLastSubtag? reversed).map dropSingleton

theorem dropLastSubtag?_length {cs rest : List Char} (h : dropLastSubtag? cs = some rest) :
    rest.length < cs.length := by
  induction cs with
  | nil => simp [dropLastSubtag?] at h
  | cons c cs ih =>
    by_cases hc : c = '-'
    · simp only [dropLastSubtag?, hc, if_true, Option.some.injEq] at h
      simp [h]
    · simp only [dropLastSubtag?, hc, if_false] at h
      have := ih h
      simp only [List.length_cons]
      omega

theorem dropSingleton_length (cs : List Char) : (dropSingleton cs).length ≤ cs.length := by
  fun_cases dropSingleton cs with
  | case1 a cs => simp; omega
  | case2 => exact Nat.le_refl _

theorem shorter?_length {cs rest : List Char} (h : shorter? cs = some rest) :
    rest.length < cs.length := by
  obtain ⟨cut, hcut, rfl⟩ := Option.map_eq_some_iff.1 h
  exact Nat.lt_of_le_of_lt (dropSingleton_length cut) (dropLastSubtag?_length hcut)

/-- The first of a reversed tag and its shorter forms that the provider offers. -/
def Provider.firstOffered? (p : Provider) (reversed : List Char) : Option String :=
  let candidate := String.ofList reversed.reverse
  if p.offers candidate then some candidate
  else
    match h : shorter? reversed with
    | some rest =>
      have := shorter?_length h
      p.firstOffered? rest
    | none => none
termination_by reversed.length

/-- The locale that a list of requested locales is resolved to. -/
def Provider.resolve (p : Provider) (requested : List String) : String :=
  (requested.findSome? fun tag => p.firstOffered? tag.toList.reverse).getD p.defaultLocale

/-- The locale that a list of requested locales is resolved to, by a list of available ones. -/
def Data.resolve (d : Data) (requested : List String) : String :=
  d.provider.resolve requested

end AdaptiveTree.Locale
