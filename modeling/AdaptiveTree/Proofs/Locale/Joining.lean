import AdaptiveTree.Locale.ListFormat
import Mathlib.Data.List.Basic

/-!
# Joined lists

A pattern whose two places stand around a separator without opening brace puts the separator between
two texts and reads nothing else (`fill_pattern`): the texts are copied, whatever is in them, and a
text that is joined already goes into the second place as it is. So a list is joined by its
separators, with each item in its place (`join_verbatim`), and all patterns of the bundled languages
are of this form.

On any other pattern too, filling goes from one opening brace to the next: it comes to an end after
as many rounds as the pattern has opening braces (`fills_iff`).
-/

set_option autoImplicit false

namespace AdaptiveTree.Locale

/-! ## Rounds of filling -/

/-- Filling the rest of a pattern takes some number of rounds and gives some text. A round copies
all before the next opening brace, and then a text if a place begins with the brace, else the brace
alone; what follows is left for later rounds. -/
inductive Fills (first second : List Char) : List Char → Nat → List Char → Prop
  | done {rest : List Char} (hrest : '\x7b' ∉ rest) : Fills first second rest 0 rest
  | first {before after out : List Char} {n : Nat} (hbefore : '\x7b' ∉ before)
      (hafter : Fills first second after n out) :
      Fills first second (before ++ '\x7b' :: '0' :: '\x7d' :: after) (n + 1)
        (before ++ first ++ out)
  | second {before after out : List Char} {n : Nat} (hbefore : '\x7b' ∉ before)
      (hafter : Fills first second after n out) :
      Fills first second (before ++ '\x7b' :: '1' :: '\x7d' :: after) (n + 1)
        (before ++ second ++ out)
  | brace {before after out : List Char} {n : Nat} (hbefore : '\x7b' ∉ before)
      (hfirst : ¬ ['0', '\x7d'] <+: after) (hsecond : ¬ ['1', '\x7d'] <+: after)
      (hafter : Fills first second after n out) :
      Fills first second (before ++ '\x7b' :: after) (n + 1) (before ++ '\x7b' :: out)

variable {first second : List Char}

/-- Up to the next opening brace a pattern is copied. -/
theorem fillFrom_append {before : List Char} (h : '\x7b' ∉ before) (cs : List Char) :
    fillFrom first second (before ++ cs) = before ++ fillFrom first second cs := by
  induction before with
  | nil => rfl
  | cons c before ih =>
    rw [List.mem_cons, not_or] at h
    rw [List.cons_append, fillFrom, ih h.2, List.cons_append]
    · exact fun _ hc _ => h.1 hc.symm
    · exact fun _ hc _ => h.1 hc.symm

theorem fillFrom_of_not_mem {rest : List Char} (h : '\x7b' ∉ rest) :
    fillFrom first second rest = rest := by
  have := @fillFrom_append first second rest h []
  simpa [fillFrom] using this

/-- A brace that begins no place is copied. -/
theorem fillFrom_brace {after : List Char} (hfirst : ¬ ['0', '\x7d'] <+: after)
    (hsecond : ¬ ['1', '\x7d'] <+: after) :
    fillFrom first second ('\x7b' :: after) = '\x7b' :: fillFrom first second after := by
  rw [fillFrom]
  · rintro cs - rfl
    exact hfirst ⟨cs, rfl⟩
  · rintro cs - rfl
    exact hsecond ⟨cs, rfl⟩

theorem Fills.eq {pattern out : List Char} {n : Nat} (h : Fills first second pattern n out) :
    n = pattern.count '\x7b' ∧ out = fillFrom first second pattern := by
  induction h with
  | done hrest => exact ⟨(List.count_eq_zero.2 hrest).symm, (fillFrom_of_not_mem hrest).symm⟩
  | first hbefore _ ih | second hbefore _ ih =>
    rw [fillFrom_append hbefore, fillFrom, ← ih.2, List.append_assoc]
    exact ⟨by simp [List.count_eq_zero.2 hbefore, ih.1], rfl⟩
  | brace hbefore hfirst hsecond _ ih =>
    rw [fillFrom_append hbefore, fillFrom_brace hfirst hsecond, ← ih.2]
    exact ⟨by simp [List.count_eq_zero.2 hbefore, ih.1], rfl⟩

/-- Filling comes to an end on every pattern: a round leaves less of it. -/
theorem exists_fills (first second pattern : List Char) :
    ∃ n out, Fills first second pattern n out := by
  induction hlength : pattern.length using Nat.strongRecOn generalizing pattern with
  | ind length ih =>
    subst hlength
    by_cases hbrace : '\x7b' ∈ pattern
    · obtain ⟨before, after, rfl, hbefore⟩ := List.eq_append_cons_of_mem hbrace
      have hshorter : ∀ rest : List Char, rest.length ≤ after.length →
          ∃ n out, Fills first second rest n out := by
        intro rest hrest
        refine ih _ ?_ rest rfl
        rw [List.length_append, List.length_cons]
        omega
      by_cases hfirst : ['0', '\x7d'] <+: after
      · obtain ⟨rest, rfl⟩ := hfirst
        obtain ⟨n, out, hfills⟩ := hshorter rest (by simp; omega)
        exact ⟨_, _, .first hbefore hfills⟩
      by_cases hsecond : ['1', '\x7d'] <+: after
      · obtain ⟨rest, rfl⟩ := hsecond
        obtain ⟨n, out, hfills⟩ := hshorter rest (by simp; omega)
        exact ⟨_, _, .second hbefore hfills⟩
      obtain ⟨n, out, hfills⟩ := hshorter after (Nat.le_refl _)
      exact ⟨_, _, .brace hbefore hfirst hsecond hfills⟩
    · exact ⟨_, _, .done hbrace⟩

/-- Filling a pattern takes one round for each of its opening braces, and gives what `fillFrom`
says. -/
theorem fills_iff {pattern out : List Char} {n : Nat} :
    Fills first second pattern n out ↔
      n = pattern.count '\x7b' ∧ out = fillFrom first second pattern := by
  refine ⟨Fills.eq, ?_⟩
  rintro ⟨rfl, rfl⟩
  obtain ⟨n, out, h⟩ := exists_fills first second pattern
  obtain ⟨rfl, rfl⟩ := h.eq
  exact h

/-! ## Separators -/

/-- A text to stand between two items: one without opening brace. -/
structure Separator where
  text : String
  plain : '\x7b' ∉ text.toList

/-- The pattern that puts a separator between two texts. -/
def Separator.pattern (s : Separator) : String :=
  "\x7b0\x7d" ++ s.text ++ "\x7b1\x7d"

theorem fill_pattern (s : Separator) (a b : String) : fill s.pattern a b = a ++ s.text ++ b := by
  have hpattern : s.pattern.toList =
      '\x7b' :: '0' :: '\x7d' :: (s.text.toList ++ ['\x7b', '1', '\x7d']) := by
    simp [Separator.pattern]
  rw [fill, hpattern, fillFrom, fillFrom_append s.plain]
  simp [fillFrom, String.ofList_append, String.append_assoc]

/-- The separators of a pair, and after the first, inside and before the last of a longer list. -/
structure Separators where
  pair : Separator
  start : Separator
  middle : Separator
  last : Separator

/-- The patterns that put these separators between their texts. -/
def Separators.patterns (s : Separators) : ListPatterns :=
  ⟨s.pair.pattern, s.start.pattern, s.middle.pattern, s.last.pattern⟩

theorem joinTail_pair (s : Separators) (y z : String) :
    s.patterns.joinTail y [z] = y ++ s.last.text ++ z :=
  fill_pattern s.last y z

/-- Each item before the last two of a list is followed by the separator for the inside. -/
theorem joinTail_append (s : Separators) (a : String) (mid : List String) (y z : String) :
    s.patterns.joinTail a (mid ++ [y, z]) =
      String.join ((a :: mid).map (· ++ s.middle.text)) ++ (y ++ s.last.text ++ z) := by
  induction mid generalizing a with
  | nil =>
    have hstep : s.patterns.joinTail a [y, z] =
        fill s.middle.pattern a (s.patterns.joinTail y [z]) := rfl
    rw [List.nil_append, hstep, fill_pattern, joinTail_pair]
    simp
  | cons b mid ih =>
    have hstep : s.patterns.joinTail a (b :: (mid ++ [y, z])) =
        fill s.middle.pattern a (s.patterns.joinTail b (mid ++ [y, z])) := by
      rw [ListPatterns.joinTail]
      · rfl
      · simp
    rw [List.cons_append, hstep, fill_pattern, ih]
    simp [String.append_assoc]

/-- What the patterns of the bundled languages put between their texts. -/
theorem ofLanguage?_separators {language : String} {type : ListType} {style : ListStyle}
    {p : ListPatterns} (h : ListPatterns.ofLanguage? language type style = some p) :
    ∃ s : Separators, p = s.patterns := by
  have hwith : ∀ separator pair last : String,
      '\x7b' ∉ (separator ++ pair ++ last).toList →
        ∃ s : Separators, ListPatterns.withLast separator pair last = s.patterns := by
    intro separator pair last hplain
    simp only [String.toList_append, List.mem_append, not_or] at hplain
    obtain ⟨⟨hseparator, hpair⟩, hlast⟩ := hplain
    exact ⟨⟨⟨pair, hpair⟩, ⟨separator, hseparator⟩, ⟨separator, hseparator⟩, ⟨last, hlast⟩⟩, rfl⟩
  unfold ListPatterns.ofLanguage? at h
  split at h <;> cases h <;> exact hwith _ _ _ (by decide)

/-- Patterns around separators join the items of a list with the separators between them, each item
once, in its place and as it is, whatever places or braces are in it. The patterns of every bundled
language are of this form. On every pattern, of this form or not, filling comes to an end. -/
theorem join_verbatim :
    (∀ s : Separators,
      s.patterns.join [] = "" ∧
        (∀ a, s.patterns.join [a] = a) ∧
        (∀ a b, s.patterns.join [a, b] = a ++ s.pair.text ++ b) ∧
        ∀ (a : String) (mid : List String) (y z : String),
          s.patterns.join (a :: (mid ++ [y, z])) =
            a ++ s.start.text ++ String.join (mid.map (· ++ s.middle.text)) ++
              (y ++ s.last.text ++ z)) ∧
      (∀ (language : String) (type : ListType) (style : ListStyle) (p : ListPatterns),
        ListPatterns.ofLanguage? language type style = some p → ∃ s : Separators, p = s.patterns) ∧
      ∀ pattern a b : String,
        Fills a.toList b.toList pattern.toList (pattern.toList.count '\x7b')
          (fill pattern a b).toList := by
  refine ⟨fun s => ⟨rfl, fun a => rfl, fill_pattern s.pair, fun a mid y z => ?_⟩,
    fun _ _ _ _ => ofLanguage?_separators, fun pattern a b => ?_⟩
  · cases mid with
    | nil =>
      have hstep : s.patterns.join [a, y, z] =
          fill s.start.pattern a (s.patterns.joinTail y [z]) := rfl
      rw [List.nil_append, hstep, fill_pattern, joinTail_pair]
      simp
    | cons b mid =>
      have hstep : s.patterns.join (a :: b :: (mid ++ [y, z])) =
          fill s.start.pattern a (s.patterns.joinTail b (mid ++ [y, z])) := by
        rw [ListPatterns.join]
        · rfl
        · simp
      rw [List.cons_append, hstep, fill_pattern, joinTail_append]
      simp [String.append_assoc]
  · exact fills_iff.2 ⟨rfl, by simp [fill]⟩

/-- Items that look like places of a pattern are joined as they are. -/
theorem join_verbatim_german :
    let p := ListPatterns.withLast ", " ", " " und "
    ListPatterns.ofLanguage? "de" .unit .long = some p ∧ (∃ s : Separators, p = s.patterns) ∧
      p.join ["\x7b1\x7d", "\x7b0\x7d", "b", "\x7b"] = "\x7b1\x7d, \x7b0\x7d, b und \x7b" := by
  intro p
  have hp : ListPatterns.ofLanguage? "de" .unit .long = some p := rfl
  obtain ⟨hjoin, hbundled, -⟩ := join_verbatim
  let comma : Separator := ⟨", ", by decide⟩
  let s : Separators := ⟨comma, comma, comma, ⟨" und ", by decide⟩⟩
  have hitems := (hjoin s).2.2.2 "\x7b1\x7d" ["\x7b0\x7d"] "b" "\x7b"
  exact ⟨hp, hbundled _ _ _ p hp, hitems.trans (by decide)⟩

end AdaptiveTree.Locale
