import AdaptiveTree.Proofs.Locale.Making
import AdaptiveTree.Proofs.Locale.Tag

/-!
# Lookup of locales

Lookup cuts a tag down until a provider offers what is left. A cut takes one subtag, and a second
one if the first leaves a subtag of one character at the end. So some truncations of a tag are never
asked for, all of which end in a subtag of one character; a provider that offers none of that kind
has nothing left out (`isTruncation_shorter?`). Hence the locale found for a tag is the longest
truncation of it that is offered (`Provider.longestOffered_of_firstOffered?`), and the locale of a
list of requests is that of the first request with such a truncation (`Provider.resolve_longest`).
-/

set_option autoImplicit false

namespace AdaptiveTree.Locale

/-! ## Subtags of texts -/

theorem splitHyphens_append (cs ds : List Char) :
    splitHyphens (cs ++ '-' :: ds) = splitHyphens cs ++ splitHyphens ds := by
  induction cs with
  | nil => simp [splitHyphens]
  | cons c cs ih =>
    simp only [List.cons_append, splitHyphens, ih]
    split
    · rfl
    · cases hcs : splitHyphens cs with
      | nil => exact absurd hcs (splitHyphens_ne_nil cs)
      | cons s rest => rfl

theorem splitHyphens_of_not_mem {cs : List Char} (h : '-' ∉ cs) : splitHyphens cs = [cs] := by
  induction cs with
  | nil => rfl
  | cons c cs ih =>
    rw [List.mem_cons, not_or] at h
    rw [splitHyphens, if_neg (Ne.symm h.1), ih h.2]

theorem splitHyphens_inj {cs ds : List Char} (h : splitHyphens cs = splitHyphens ds) : cs = ds := by
  rw [← joinHyphens_splitHyphens cs, h, joinHyphens_splitHyphens]

theorem joinHyphens_cons (s : Subtag) {ss : List Subtag} (h : ss ≠ []) :
    joinHyphens (s :: ss) = s ++ '-' :: joinHyphens ss := by
  cases ss with
  | nil => exact absurd rfl h
  | cons r ss => rfl

theorem length_joinHyphens_append_le (ss rs : List Subtag) :
    (joinHyphens ss).length ≤ (joinHyphens (ss ++ rs)).length := by
  induction ss with
  | nil => exact Nat.zero_le _
  | cons s ss ih =>
    cases ss with
    | nil => cases rs <;> simp [joinHyphens]
    | cons r ss =>
      rw [List.cons_append, joinHyphens_cons s (by simp), joinHyphens_cons s (by simp)]
      simp only [List.length_append, List.length_cons]
      omega

/-! ## Truncations -/

/-- The subtags of the text are the first ones of the tag, or all of them. -/
def IsTruncation (text tag : String) : Prop :=
  splitHyphens text.toList <+: splitHyphens tag.toList

instance (text tag : String) : Decidable (IsTruncation text tag) :=
  inferInstanceAs (Decidable (_ <+: _))

theorem IsTruncation.length_le {text tag : String} (h : IsTruncation text tag) :
    text.length ≤ tag.length := by
  obtain ⟨rest, hrest⟩ := h
  rw [← String.length_toList, ← String.length_toList, ← joinHyphens_splitHyphens text.toList,
    ← joinHyphens_splitHyphens tag.toList, ← hrest]
  exact length_joinHyphens_append_le _ rest

/-- Where a reversed tag is cut: before its last subtag. -/
theorem dropLastSubtag?_cases (cs : List Char) :
    (dropLastSubtag? cs = none ∧ '-' ∉ cs) ∨
      ∃ s rest, dropLastSubtag? cs = some rest ∧ '-' ∉ s ∧ cs = s ++ '-' :: rest := by
  induction cs with
  | nil => exact .inl ⟨rfl, List.not_mem_nil⟩
  | cons c cs ih =>
    by_cases hc : c = '-'
    · exact .inr ⟨[], cs, by simp [dropLastSubtag?, hc], List.not_mem_nil, by simp [hc]⟩
    · simp only [dropLastSubtag?, if_neg hc]
      rcases ih with ⟨hnone, hmem⟩ | ⟨s, rest, hsome, hmem, rfl⟩
      · exact .inl ⟨hnone, by simp [Ne.symm hc, hmem]⟩
      · exact .inr ⟨c :: s, rest, hsome, by simp [Ne.symm hc, hmem], rfl⟩

/-- The subtags of a reversed tag, in order. -/
def subtagsOf (reversed : List Char) : List Subtag :=
  splitHyphens reversed.reverse

theorem subtagsOf_append {s rest : List Char} (h : '-' ∉ s) :
    subtagsOf (s ++ '-' :: rest) = subtagsOf rest ++ [s.reverse] := by
  have hreverse : (s ++ '-' :: rest).reverse = rest.reverse ++ '-' :: s.reverse := by simp
  rw [subtagsOf, hreverse, splitHyphens_append,
    splitHyphens_of_not_mem (mt List.mem_reverse.1 h), subtagsOf]

/-- A reversed tag of no hyphen is one subtag; any other is cut before its last subtag. -/
theorem subtagsOf_cases (cs : List Char) :
    (dropLastSubtag? cs = none ∧ subtagsOf cs = [cs.reverse]) ∨
      ∃ s rest, dropLastSubtag? cs = some rest ∧ subtagsOf cs = subtagsOf rest ++ [s] := by
  rcases dropLastSubtag?_cases cs with ⟨hnone, hmem⟩ | ⟨s, rest, hsome, hmem, rfl⟩
  · exact .inl ⟨hnone, splitHyphens_of_not_mem (mt List.mem_reverse.1 hmem)⟩
  · exact .inr ⟨s.reverse, rest, hsome, subtagsOf_append hmem⟩

/-- A second cut is made exactly before a subtag of one character, if no subtag is empty. -/
theorem dropSingleton_cases {cs : List Char} (hfull : [] ∉ subtagsOf cs) :
    dropSingleton cs = cs ∨ ∃ c, subtagsOf cs = subtagsOf (dropSingleton cs) ++ [[c]] := by
  fun_cases dropSingleton cs with
  | case1 c cs =>
    refine .inr ⟨c, ?_⟩
    have hc : '-' ∉ [c] := by
      intro hmem
      obtain rfl := List.mem_singleton.1 hmem
      have hempty : subtagsOf ('-' :: '-' :: cs) = subtagsOf ('-' :: cs) ++ [[]] :=
        subtagsOf_append (s := []) List.not_mem_nil
      exact hfull (by simp [hempty])
    exact subtagsOf_append hc
  | case2 => exact .inl rfl

/-! ## One cut -/

variable {p : Provider}

/-- No available locale of the provider ends in a subtag of one character. -/
def Provider.OffersNoSingleton (p : Provider) : Prop :=
  ∀ q, p.offers q = true → endsInSingleton (splitHyphens q.toList) = false

theorem Data.offersNoSingleton_iff (d : Data) :
    d.provider.OffersNoSingleton ↔
      ∀ a ∈ d.available, endsInSingleton (splitHyphens a.toList) = false := by
  simp [Provider.OffersNoSingleton, Data.provider, Data.offers]

theorem Provider.OffersNoSingleton.subtags_ne (hp : p.OffersNoSingleton) {q : String}
    (hq : p.offers q = true) (ss : List Subtag) (c : Char) :
    splitHyphens q.toList ≠ ss ++ [[c]] := by
  intro heq
  have hend := hp q hq
  simp [heq, endsInSingleton] at hend

/-- The text of a reversed tag. -/
def textOf (reversed : List Char) : String :=
  String.ofList reversed.reverse

theorem isTruncation_textOf {q : String} {cs : List Char} :
    IsTruncation q (textOf cs) ↔ splitHyphens q.toList <+: subtagsOf cs := by
  simp [IsTruncation, textOf, subtagsOf]

/-- What is offered of the truncations of a tag that is not offered itself is left after one cut,
and nothing is offered of a tag that cannot be cut. -/
theorem isTruncation_shorter? (hp : p.OffersNoSingleton) {cs : List Char}
    (hfull : [] ∉ subtagsOf cs) (hself : p.offers (textOf cs) = false) {q : String}
    (hq : p.offers q = true) :
    IsTruncation q (textOf cs) ↔
      ∃ rest, shorter? cs = some rest ∧ IsTruncation q (textOf rest) := by
  simp only [isTruncation_textOf]
  have hne : splitHyphens q.toList ≠ subtagsOf cs := by
    intro hsame
    have htext : textOf cs = q := by rw [textOf, ← splitHyphens_inj hsame, String.ofList_toList]
    rw [htext, hq] at hself
    cases hself
  rcases subtagsOf_cases cs with ⟨hnone, hone⟩ | ⟨s, rest, hsome, hsubtags⟩
  · have hshorter : shorter? cs = none := by simp [shorter?, hnone]
    have honly : splitHyphens q.toList <+: [] ++ [cs.reverse] ↔ False := by
      rw [List.prefix_concat_iff, List.nil_append, ← hone, List.prefix_nil]
      simp [hne, splitHyphens_ne_nil]
    simpa [hone, hshorter] using honly
  · have hshorter : shorter? cs = some (dropSingleton rest) := by simp [shorter?, hsome]
    have hfull' : [] ∉ subtagsOf rest := fun hmem => hfull (by simp [hsubtags, hmem])
    rw [hsubtags] at hne ⊢
    simp only [hshorter, Option.some.injEq, exists_eq_left', List.prefix_concat_iff, hne, false_or]
    rcases dropSingleton_cases hfull' with hsame | ⟨c, hcut⟩
    · rw [hsame]
    · rw [hcut, List.prefix_concat_iff]
      simp [hp.subtags_ne hq]

theorem subtagsOf_shorter? {cs rest : List Char} (hfull : [] ∉ subtagsOf cs)
    (h : shorter? cs = some rest) : [] ∉ subtagsOf rest := by
  obtain ⟨cut, hcut, rfl⟩ := Option.map_eq_some_iff.1 h
  rcases subtagsOf_cases cs with ⟨hnone, -⟩ | ⟨s, cut', hsome, hsubtags⟩
  · simp [hnone] at hcut
  · obtain rfl : cut' = cut := by simpa [hsome] using hcut
    have hfull' : [] ∉ subtagsOf cut' := fun hmem => hfull (by simp [hsubtags, hmem])
    rcases dropSingleton_cases hfull' with hsame | ⟨c, hsingle⟩
    · rwa [hsame]
    · exact fun hmem => hfull' (by simp [hsingle, hmem])

/-! ## Lookup -/

/-- The locale is the longest truncation of the tag that the provider offers. -/
structure Provider.LongestOffered (p : Provider) (tag locale : String) : Prop where
  offered : p.offers locale = true
  truncation : IsTruncation locale tag
  longest : ∀ q, IsTruncation q tag → p.offers q = true → q.length ≤ locale.length

/-- The provider offers no truncation of the tag. -/
def Provider.OffersNone (p : Provider) (tag : String) : Prop :=
  ∀ q, IsTruncation q tag → p.offers q = false

theorem Provider.offersNone_of_firstOffered? (hp : p.OffersNoSingleton) {cs : List Char}
    (hfull : [] ∉ subtagsOf cs) (hnone : p.firstOffered? cs = none) : p.OffersNone (textOf cs) := by
  rw [Provider.firstOffered?_eq] at hnone
  split at hnone
  · cases hnone
  · rename_i hself
    intro q hq
    by_contra hoffered
    rw [Bool.not_eq_false] at hoffered
    obtain ⟨rest, hrest, hq⟩ :=
      (isTruncation_shorter? hp hfull (Bool.not_eq_true _ ▸ hself) hoffered).1 hq
    have := shorter?_length hrest
    rw [hrest, Option.bind_some] at hnone
    have hnone' :=
      Provider.offersNone_of_firstOffered? hp (subtagsOf_shorter? hfull hrest) hnone q hq
    rw [hoffered] at hnone'
    cases hnone'
termination_by cs.length

/-- What lookup finds for a tag is the longest truncation that is offered: each cut leaves a shorter
tag, of which all is left that is offered. -/
theorem Provider.longestOffered_of_firstOffered? (hp : p.OffersNoSingleton) {cs : List Char}
    (hfull : [] ∉ subtagsOf cs) {locale : String} (hfound : p.firstOffered? cs = some locale) :
    p.LongestOffered (textOf cs) locale := by
  rw [Provider.firstOffered?_eq] at hfound
  split at hfound
  · rename_i hself
    obtain rfl := Option.some.inj hfound
    exact ⟨hself, List.prefix_rfl, fun q hq _ => hq.length_le⟩
  · rename_i hself
    obtain ⟨rest, hrest, hfound⟩ := Option.bind_eq_some_iff.1 hfound
    have := shorter?_length hrest
    have ih := Provider.longestOffered_of_firstOffered? hp (subtagsOf_shorter? hfull hrest) hfound
    have hcut := fun q (hq : p.offers q = true) =>
      isTruncation_shorter? hp hfull (Bool.not_eq_true _ ▸ hself) hq
    refine ⟨ih.offered, (hcut locale ih.offered).2 ⟨rest, hrest, ih.truncation⟩,
      fun q hq hoffered => ?_⟩
    obtain ⟨rest', hrest', hq⟩ := (hcut q hoffered).1 hq
    rw [hrest] at hrest'
    obtain rfl := Option.some.inj hrest'
    exact ih.longest q hq hoffered
termination_by cs.length

/-- A canonical tag has no empty subtag. -/
theorem subtagsOf_of_canonical {tag : String} (h : canonicalTag? tag = some tag) :
    [] ∉ subtagsOf tag.toList.reverse := by
  obtain ⟨cs, hcs, -⟩ := Option.map_eq_some_iff.1 h
  rw [subtagsOf, List.reverse_reverse]
  intro hmem
  unfold canonicalSubtags? at hcs
  split at hcs
  · cases hcs
  · rename_i hall
    simp only [Bool.not_eq_true, Bool.not_eq_false', List.all_eq_true] at hall
    exact absurd (hall [] hmem) (by decide)

/-- Lookup gives the longest truncation offered of the first requested tag that has one, and the
default of the provider when no requested tag has one. -/
theorem Provider.resolve_longest (hp : p.OffersNoSingleton) {requested : List String}
    (hcanonical : ∀ tag ∈ requested, canonicalTag? tag = some tag) :
    (∃ before tag after, requested = before ++ tag :: after ∧
        (∀ t ∈ before, p.OffersNone t) ∧ p.LongestOffered tag (p.resolve requested)) ∨
      ((∀ t ∈ requested, p.OffersNone t) ∧ p.resolve requested = p.defaultLocale) := by
  have htext : ∀ tag : String, textOf tag.toList.reverse = tag := fun tag => by simp [textOf]
  have hnone : ∀ tag ∈ requested, p.firstOffered? tag.toList.reverse = none → p.OffersNone tag := by
    intro tag hmem hfound
    have := offersNone_of_firstOffered? hp (subtagsOf_of_canonical (hcanonical tag hmem)) hfound
    rwa [htext] at this
  unfold Provider.resolve
  cases hfound : requested.findSome? fun tag => p.firstOffered? tag.toList.reverse with
  | none => exact .inr ⟨fun t ht => hnone t ht (List.findSome?_eq_none_iff.1 hfound t ht), rfl⟩
  | some locale =>
    obtain ⟨before, tag, after, rfl, htag, hbefore⟩ := List.findSome?_eq_some_iff.1 hfound
    have hlongest := longestOffered_of_firstOffered? hp
      (subtagsOf_of_canonical (hcanonical tag (by simp))) htag
    rw [htext] at hlongest
    exact .inl ⟨before, tag, after, rfl, fun t ht => hnone t (by simp [ht]) (hbefore t ht),
      hlongest⟩

/-- A tail with three subtags of one character in a row is cut off in two steps. -/
theorem Provider.resolve_longest_extension :
    let d : Data := ⟨"en", ["en", "de", "de-AT"]⟩
    let requested := ["ja-JP", "de-AT-u-x-a-phonebk"]
    d.provider.OffersNoSingleton ∧ (∀ tag ∈ requested, canonicalTag? tag = some tag) ∧
      d.provider.resolve requested = "de-AT" ∧
      ((∃ before tag after, requested = before ++ tag :: after ∧
          (∀ t ∈ before, d.provider.OffersNone t) ∧ d.provider.LongestOffered tag "de-AT") ∨
        ((∀ t ∈ requested, d.provider.OffersNone t) ∧ "de-AT" = d.defaultLocale)) := by
  intro d requested
  have hp : d.provider.OffersNoSingleton := d.offersNoSingleton_iff.2 (by decide)
  have hcanonical : ∀ tag ∈ requested, canonicalTag? tag = some tag := by decide
  have hresolve : d.provider.resolve requested = "de-AT" := by decide +kernel
  have hlongest := Provider.resolve_longest hp hcanonical
  rw [hresolve] at hlongest
  exact ⟨hp, hcanonical, hresolve, hlongest⟩

end AdaptiveTree.Locale
