import AdaptiveTree.Context
import Mathlib

/-!
# List formats made in a checked context

Settings that pass their check have their default locale among the available ones, in canonical
form, so the locales of a checked context offer whatever they resolve to. The names in the option
tables are the names that the parsers know, so what an option check lets through is parsed, and the
default that follows the parser is never taken.

`make_of_checked` says for which arguments a checked context makes a list format, and what is known
of one that is made.
-/

set_option autoImplicit false

namespace AdaptiveTree.Locale

/-! ## Names and parsers -/

section Names

variable {α : Type}

theorem find?_name {name : α → String} {values : List α} (hall : ∀ v, v ∈ values)
    (hinj : ∀ u v, name u = name v → u = v) {s : String} {v : α} :
    (values.find? fun u => name u == s) = some v ↔ name v = s := by
  constructor
  · intro h
    simpa using List.find?_some h
  · rintro rfl
    cases hfound : values.find? fun u => name u == name v with
    | none => simpa using List.find?_eq_none.1 hfound v (hall v)
    | some u => exact congrArg some (hinj u v (by simpa using List.find?_some hfound))

theorem mem_map_name (name : α → String) (values : List α) (hall : ∀ v, v ∈ values) {s : String} :
    s ∈ values.map name ↔ ∃ v, name v = s := by
  simp [hall]

end Names

theorem Matcher.ofName?_eq_some {s : String} {m : Matcher} : ofName? s = some m ↔ m.name = s :=
  find?_name (by intro m; cases m <;> decide) (by intro m n; cases m <;> cases n <;> decide)

theorem ListType.ofName?_eq_some {s : String} {t : ListType} : ofName? s = some t ↔ t.name = s :=
  find?_name (by intro t; cases t <;> decide) (by intro t u; cases t <;> cases u <;> decide)

theorem ListStyle.ofName?_eq_some {s : String} {t : ListStyle} :
    ofName? s = some t ↔ t.name = s :=
  find?_name (by intro t; cases t <;> decide) (by intro t u; cases t <;> cases u <;> decide)

-- each table of names lists what its parser knows

theorem Matcher.mem_names {s : String} : s ∈ names ↔ ∃ m, ofName? s = some m := by
  simp only [ofName?_eq_some]
  exact mem_map_name name [lookup, bestFit] (by intro m; cases m <;> decide)

theorem ListType.mem_names {s : String} : s ∈ names ↔ ∃ t, ofName? s = some t := by
  simp only [ofName?_eq_some]
  exact mem_map_name name [conjunction, disjunction, unit] (by intro t; cases t <;> decide)

theorem ListStyle.mem_names {s : String} : s ∈ names ↔ ∃ t, ofName? s = some t := by
  simp only [ofName?_eq_some]
  exact mem_map_name name [long, short, narrow] (by intro t; cases t <;> decide)

/-! ## Options -/

/-- The text that an options argument has under a name: none when it is not an object, or when what
stands there is undefined or nothing at all. -/
def given? (h : Heap) (options : Value) (name : String) : Option String :=
  match options with
  | .object id =>
    match (h.get id).named? name with
    | none | some .undefined => none
    | some v => some (h.display v)
  | _ => none

/-- The text that counts for an option: the one given, or the default. -/
def chosen (h : Heap) (options : Value) (name fallback : String) : String :=
  (given? h options name).getD fallback

theorem option_eq {h : Heap} {options : Value} {obj : Option Object}
    (hobj : optionsObject h options = .ok obj) (name : String) (allowed : List String)
    (fallback : String) :
    option h obj name allowed fallback =
      match given? h options name with
      | none => .ok fallback
      | some s => if allowed.contains s then .ok s else .error (.optionOutOfRange s name) := by
  cases options with
  | null => cases hobj
  | object id =>
    cases hobj
    simp only [option, given?, Option.bind_some]
    cases (h.get id).named? name with
    | none => rfl
    | some v => cases v <;> rfl
  | _ => cases hobj; rfl

/-- An option is read as the text that counts, unless a text is given that is not allowed. -/
theorem option_eq_ok {h : Heap} {options : Value} {obj : Option Object}
    (hobj : optionsObject h options = .ok obj) {name : String} {allowed : List String}
    {fallback text : String} :
    option h obj name allowed fallback = .ok text ↔
      chosen h options name fallback = text ∧
        ∀ s, given? h options name = some s → s ∈ allowed := by
  rw [option_eq hobj, chosen]
  cases given? h options name with
  | none => simp
  | some s => by_cases hs : s ∈ allowed <;> simp [hs]

/-- What two arguments must be to make a list format of: locales that are language tags, and options
that are not null, each of them one of its allowed texts, where the narrow style goes with the type
of units only. -/
structure Acceptable (h : Heap) (locales options : Value) : Prop where
  tags : ∃ tags, localeList h locales = .ok tags
  notNull : options ≠ .null
  matcher : ∀ s, given? h options "localeMatcher" = some s → s ∈ ["lookup", "best fit"]
  type : ∀ s, given? h options "type" = some s → s ∈ ["conjunction", "disjunction", "unit"]
  style : ∀ s, given? h options "style" = some s → s ∈ ["long", "short", "narrow"]
  combined : ¬(chosen h options "style" "long" = "narrow" ∧
    chosen h options "type" "conjunction" ≠ "unit")

/-- What a list format takes over from its arguments: the canonical locales, and each option as the
text that counts for it, which the parser knows. -/
structure ListFormat.TakenFrom (h : Heap) (locales options : Value) (f : ListFormat) : Prop where
  requested : localeList h locales = .ok f.requested
  matcher : Matcher.ofName? (chosen h options "localeMatcher" "best fit") = some f.matcher
  type : ListType.ofName? (chosen h options "type" "conjunction") = some f.type
  style : ListStyle.ofName? (chosen h options "style" "long") = some f.style

theorem optionsObject_ok {h : Heap} {options : Value} (hnull : options ≠ .null) :
    ∃ obj, optionsObject h options = .ok obj := by
  cases options with
  | null => exact absurd rfl hnull
  | object id => exact ⟨some (h.get id), rfl⟩
  | _ => exact ⟨none, rfl⟩

/-- The text that counts for an option is in its table when the text given is, as the default is. -/
theorem chosen_mem {h : Heap} {options : Value} {name : String} {allowed : List String}
    {fallback : String} (hdefault : fallback ∈ allowed)
    (hgiven : ∀ s, given? h options name = some s → s ∈ allowed) :
    chosen h options name fallback ∈ allowed := by
  unfold chosen
  cases hs : given? h options name with
  | none => exact hdefault
  | some s => exact hgiven s hs

theorem bind_eq_ok {ε α β : Type} {x : Except ε α} {f : α → Except ε β} {b : β} :
    (x >>= f) = .ok b ↔ ∃ a, x = .ok a ∧ f a = .ok b := by
  cases x with
  | error e => simp [bind, Except.bind]
  | ok a => simp [bind, Except.bind]

/-- The combination of style and type that is refused, told by the names. -/
theorem ListFormat.TakenFrom.narrow_iff {h : Heap} {locales options : Value} {f : ListFormat}
    (hf : f.TakenFrom h locales options) :
    f.style = .narrow ∧ f.type ≠ .unit ↔
      chosen h options "style" "long" = "narrow" ∧
        chosen h options "type" "conjunction" ≠ "unit" := by
  rw [← ListStyle.ofName?_eq_some.1 hf.style, ← ListType.ofName?_eq_some.1 hf.type]
  cases f.style <;> cases f.type <;> decide

/-- Where every option given is a name of its table, the parsers know all that counts, and so the
arguments say what a list format takes over. -/
theorem ListFormat.exists_takenFrom {h : Heap} {locales options : Value} {tags : List String}
    (htags : localeList h locales = .ok tags)
    (hmatcher : ∀ s, given? h options "localeMatcher" = some s → s ∈ Matcher.names)
    (htype : ∀ s, given? h options "type" = some s → s ∈ ListType.names)
    (hstyle : ∀ s, given? h options "style" = some s → s ∈ ListStyle.names) (locale : String) :
    ∃ f : ListFormat, f.TakenFrom h locales options ∧ f.requested = tags ∧ f.locale = locale := by
  have hm : "best fit" ∈ Matcher.names := by decide
  have ht : "conjunction" ∈ ListType.names := by decide
  have hs : "long" ∈ ListStyle.names := by decide
  obtain ⟨matcher, hmatcher⟩ := Matcher.mem_names.1 (chosen_mem hm hmatcher)
  obtain ⟨type, htype⟩ := ListType.mem_names.1 (chosen_mem ht htype)
  obtain ⟨style, hstyle⟩ := ListStyle.mem_names.1 (chosen_mem hs hstyle)
  exact ⟨⟨tags, locale, type, style, matcher⟩, ⟨htags, hmatcher, htype, hstyle⟩, rfl, rfl⟩

/-- A list format is made of acceptable arguments and of no others, and then it is what they
say. -/
theorem ListFormat.make_eq_ok {h : Heap} {d : Data} {locales options : Value} {f : ListFormat} :
    ListFormat.make h d locales options = .ok f ↔
      Acceptable h locales options ∧ f.TakenFrom h locales options ∧
        f.locale = d.resolve f.requested := by
  simp only [ListFormat.make, bind_eq_ok]
  constructor
  · rintro ⟨tags, htags, obj, hobj, m, hm, t, ht, s, hs, hf⟩
    obtain ⟨rfl, hmatcher⟩ := (option_eq_ok hobj).1 hm
    obtain ⟨rfl, htype⟩ := (option_eq_ok hobj).1 ht
    obtain ⟨rfl, hstyle⟩ := (option_eq_ok hobj).1 hs
    obtain ⟨g, hg, rfl, hlocale⟩ :=
      exists_takenFrom htags hmatcher htype hstyle (d.resolve tags)
    simp only [hg.matcher, hg.type, hg.style, Option.getD_some, ← hlocale] at hf
    split at hf
    · cases hf
    · rename_i hcombined
      cases hf
      have hnull : options ≠ .null := by
        rintro rfl
        cases hobj
      exact ⟨⟨⟨_, htags⟩, hnull, hmatcher, htype, hstyle, mt hg.narrow_iff.2 hcombined⟩, hg,
        hlocale⟩
  · rintro ⟨hacc, htaken, hlocale⟩
    obtain ⟨obj, hobj⟩ := optionsObject_ok (h := h) hacc.notNull
    refine ⟨f.requested, htaken.requested, obj, hobj, _, (option_eq_ok hobj).2 ⟨rfl, hacc.matcher⟩,
      _, (option_eq_ok hobj).2 ⟨rfl, hacc.type⟩, _, (option_eq_ok hobj).2 ⟨rfl, hacc.style⟩, ?_⟩
    simp only [htaken.matcher, htaken.type, htaken.style, Option.getD_some]
    rw [if_neg (mt htaken.narrow_iff.1 hacc.combined), ← hlocale]

theorem Acceptable.make {h : Heap} {locales options : Value} (hacc : Acceptable h locales options)
    (d : Data) : ∃ f, ListFormat.make h d locales options = .ok f := by
  obtain ⟨tags, htags⟩ := hacc.tags
  obtain ⟨f, htaken, rfl, hlocale⟩ :=
    ListFormat.exists_takenFrom htags hacc.matcher hacc.type hacc.style (d.resolve tags)
  exact ⟨f, ListFormat.make_eq_ok.2 ⟨hacc, htaken, hlocale⟩⟩

/-! ## Locales -/

theorem Provider.firstOffered?_eq (p : Provider) (reversed : List Char) :
    p.firstOffered? reversed =
      if p.offers (String.ofList reversed.reverse) then some (String.ofList reversed.reverse)
      else (shorter? reversed).bind p.firstOffered? := by
  rw [Provider.firstOffered?]
  split
  · rfl
  · split <;> simp [*]

/-- Lookup only ends at a locale that is offered. -/
theorem Provider.firstOffered?_offers {p : Provider} {reversed : List Char} {locale : String}
    (hfound : p.firstOffered? reversed = some locale) : p.offers locale = true := by
  rw [Provider.firstOffered?_eq] at hfound
  split at hfound
  · rename_i hoffers
    cases hfound
    exact hoffers
  · obtain ⟨rest, hrest, hfound⟩ := Option.bind_eq_some_iff.1 hfound
    have := shorter?_length hrest
    exact Provider.firstOffered?_offers hfound
termination_by reversed.length

theorem Data.resolve_offers {d : Data} (hdefault : d.offers d.defaultLocale = true)
    (requested : List String) : d.offers (d.resolve requested) = true := by
  unfold Data.resolve Provider.resolve
  cases hfound : requested.findSome? fun tag => d.provider.firstOffered? tag.toList.reverse with
  | none => exact hdefault
  | some locale =>
    obtain ⟨tag, -, htag⟩ := List.exists_of_findSome?_eq_some hfound
    exact Provider.firstOffered?_offers htag

end AdaptiveTree.Locale

namespace AdaptiveTree

namespace Config.Settings

open AdaptiveTree.Locale (Data)

theorem canonicalLocales_ok {tags canonical : List String}
    (h : canonicalLocales tags = .ok canonical) : canonical = tags.map Data.canonicalOrSelf := by
  induction tags generalizing canonical with
  | nil => cases h; rfl
  | cons tag tags ih =>
    simp only [canonicalLocales] at h
    cases htag : Locale.canonicalTag? tag with
    | none => simp [htag] at h
    | some t =>
      cases hrest : canonicalLocales tags with
      | error flaw => simp [htag, hrest, Except.map] at h
      | ok rest =>
        obtain rfl : t :: rest = canonical := by simpa [htag, hrest, Except.map] using h
        simp [Data.canonicalOrSelf, htag, ih hrest]

/-- The check of the default locale is the one that lookup relies on: both compare canonical
forms. -/
theorem offers_of_validate {s : Settings} (h : s.validate = .ok ()) :
    (Data.ofTags s.defaultLocale s.availableLocales).offers
      (Data.canonicalOrSelf s.defaultLocale) = true := by
  unfold validate at h
  split at h
  · cases h
  split at h
  · cases h
  rename_i locale hlocale
  split at h
  · cases h
  rename_i tags htags
  split at h
  · rename_i hmem
    simpa [Data.offers, Data.ofTags, Data.canonicalOrSelf, hlocale, ← canonicalLocales_ok htags]
      using hmem
  · cases h

end Config.Settings

namespace Locale

open AdaptiveTree.Config (Settings)

theorem offers_of_checked {s : Settings} {c : Context} (hc : Context.checked s = .ok c) :
    c.locales.offers c.locales.defaultLocale = true := by
  unfold Context.checked at hc
  split at hc
  · cases hc
  · rename_i hvalid
    cases hc
    exact Config.Settings.offers_of_validate hvalid

/-- A checked context makes a list format of exactly the acceptable arguments. What it makes has a
locale that is offered; each option is the one given or else its documented default, found by the
parser; and the narrow style only stands with the type of units. -/
theorem make_of_checked {s : Settings} {c : Context} (hc : Context.checked s = .ok c) (h : Heap)
    (locales options : Value) :
    ((∃ f, ListFormat.make h c.locales locales options = .ok f) ↔ Acceptable h locales options) ∧
      ∀ f, ListFormat.make h c.locales locales options = .ok f →
        c.locales.offers f.locale = true ∧
        f.TakenFrom h locales options ∧
        f.matcher.name = (given? h options "localeMatcher").getD "best fit" ∧
        f.type.name = (given? h options "type").getD "conjunction" ∧
        f.style.name = (given? h options "style").getD "long" ∧
        (f.style = .narrow → f.type = .unit) := by
  refine ⟨⟨fun ⟨f, hf⟩ => (ListFormat.make_eq_ok.1 hf).1, fun hacc => hacc.make c.locales⟩, ?_⟩
  intro f hf
  obtain ⟨hacc, htaken, hlocale⟩ := ListFormat.make_eq_ok.1 hf
  refine ⟨?_, htaken, Matcher.ofName?_eq_some.1 htaken.matcher,
    ListType.ofName?_eq_some.1 htaken.type, ListStyle.ofName?_eq_some.1 htaken.style, ?_⟩
  · rw [hlocale]
    exact Data.resolve_offers (offers_of_checked hc) f.requested
  · intro hnarrow
    exact Decidable.byContradiction fun hunit =>
      hacc.combined (htaken.narrow_iff.1 ⟨hnarrow, hunit⟩)

/-- Two spellings of one tag pass the check of the settings, and a narrow list of units is made in
the locale that a longer tag is cut down to. -/
theorem make_of_checked_narrow :
    let s : Settings := { defaultLocale := "EN-us", availableLocales := ["de", "en-US"] }
    let h : Heap := ⟨#[Object.ofPairs [("style", .string "narrow"), ("type", .string "unit")]]⟩
    let f : ListFormat := ⟨["de-AT"], "de", .unit, .narrow, .bestFit⟩
    Context.checked s = .ok (Context.ofSettings s) ∧
      ListFormat.make h (Context.ofSettings s).locales (.string "DE-at") (.object 0) = .ok f ∧
      Acceptable h (.string "DE-at") (.object 0) ∧
      (Context.ofSettings s).locales.offers f.locale = true ∧
      f.TakenFrom h (.string "DE-at") (.object 0) := by
  intro s h f
  have hvalid : s.validate = .ok () := by cbv
  have hc : Context.checked s = .ok (Context.ofSettings s) := by simp only [Context.checked, hvalid]
  have hf : ListFormat.make h (Context.ofSettings s).locales (.string "DE-at") (.object 0) =
      .ok f := by cbv
  obtain ⟨hmade, hsound⟩ := make_of_checked hc h (.string "DE-at") (.object 0)
  obtain ⟨hoffers, htaken, -⟩ := hsound f hf
  exact ⟨hc, hf, hmade.1 ⟨f, hf⟩, hoffers, htaken⟩

end Locale

end AdaptiveTree
