import AdaptiveTree.Pattern.Basic
import AdaptiveTree.Proofs.Pattern.Token
import Mathlib

/-!
# Ranges of spelled-out brackets

Between brackets the escapes for digits and word characters are spelled out to bare ranges, so that
the first and the last character of such a text come to stand beside what stood around the escape.
Here the tokens between brackets are read in order, as ranges and other parts (`parts`). Every
range of spelled-out brackets is one of the brackets before or one of the texts if and only if no
hyphen that was no sign of a range comes to stand between two characters, and then the brackets keep
their characters (`asciiClasses_bracket_iff`). Only a hyphen beside such an escape can
(`joins_eq_false`); where one does, it makes a new range (`asciiClasses_joined_range`).

Brackets inside brackets are left out, and so is a closing bracket that stands for itself: the scan
takes the first one for the end.
-/

set_option autoImplicit false

namespace AdaptiveTree.Pattern

/-- How escapes in brackets are read that are none for digits or word characters: the character that
an escape stands for, if it stands for one, and otherwise the characters that it has. -/
structure EscapeReading where
  char? : Char → Option Char
  has : Char → Char → Bool

namespace EscapeReading

/-- The reading where each other escape has the character after its backslash, and where no range
begins or ends with an escape. -/
def apart : EscapeReading :=
  ⟨fun _ => none, fun x c => x = c⟩

variable (E : EscapeReading)

/-- The character that a token in brackets stands for, if a range can begin or end with it. -/
def end? : Token → Option Char
  | .single c => if c = ']' then none else some c
  | .escape c => if (Token.escape c).isClassEscape then none else E.char? c

/-- The ends of the range that three tokens in brackets are, if they are one: a hyphen between two
characters. An opening bracket in the first place opens brackets inside. -/
def range? (a h b : Token) : Option (Char × Char) :=
  if h = .single '-' ∧ a ≠ .single '[' then
    (E.end? a).bind fun first => (E.end? b).map fun last => (first, last)
  else none

end EscapeReading

/-- A part of a bracket expression. Brackets inside it are parts by themselves. -/
inductive Part where
  | item (t : Token)
  | range (first last : Char)
  | opening
  | closing
deriving DecidableEq, Repr

/-- The part that a token is by itself. -/
def Part.ofToken (t : Token) : Part :=
  if t = .single '[' then .opening else if t = .single ']' then .closing else .item t

/-- The parts of a bracket expression, read in order. -/
def parts (E : EscapeReading) : List Token → List Part
  | a :: h :: b :: ts =>
    match E.range? a h b with
    | some (first, last) => .range first last :: parts E ts
    | none => .ofToken a :: parts E (h :: b :: ts)
  | a :: ts => .ofToken a :: parts E ts
  | [] => []

/-- The parts that a part is spelled out to. -/
def Part.spelled : Part → List Part
  | .item (.escape 'd') => [.range '0' '9']
  | .item (.escape 'D') => [.opening, .item (.single '^'), .range '0' '9', .closing]
  | .item (.escape 'w') => [.range '0' '9', .range 'A' 'Z', .range 'a' 'z', .item (.single '_')]
  | .item (.escape 'W') => [.opening, .item (.single '^'), .range '0' '9', .range 'A' 'Z',
      .range 'a' 'z', .item (.single '_'), .closing]
  | p => [p]

namespace EscapeReading

variable (E : EscapeReading)

/-- The character that a hyphen after the token comes to stand behind, if a range can begin with
it. -/
def before? : Token → Option Char
  | .escape 'w' => some '_'
  | t => E.end? t

/-- The character that a hyphen before the token comes to stand in front of, if a range can end with
it. -/
def after? : Token → Option Char
  | .escape 'd' | .escape 'w' => some '0'
  | .escape 'D' | .escape 'W' => some '['
  | t => E.end? t

end EscapeReading

/-- Whether spelling out puts a hyphen that is no sign of a range between two characters, when the
tokens are read in order. -/
def joins (E : EscapeReading) : List Token → Bool
  | a :: h :: b :: ts =>
    match E.range? a h b with
    | some _ => joins E ts
    | none =>
      h = .single '-' && (E.before? a).isSome && (E.after? b).isSome || joins E (h :: b :: ts)
  | _ :: ts => joins E ts
  | [] => false

/-! ## Spelled-out tokens -/

section

variable {E : EscapeReading} {a h b : Token} {ts rest : List Token}

/-- A token that is no bracket. -/
def Token.Inner (t : Token) : Prop :=
  t ≠ .single '[' ∧ t ≠ .single ']'

/-- The tokens of the text that stands for a token in brackets. -/
def Token.respelled (t : Token) : List Token :=
  tokens (t.spelled true)

theorem respelled_kept (ha : a.isClassEscape = false) : a.respelled = [a] := by
  have hp : Placed.isRespelled ⟨true, a⟩ = false := by simp [Placed.isRespelled, ha]
  have hspelled : a.spelled true = a.text := Placed.spelled_of_kept hp
  rw [Token.respelled, hspelled, tokens_text]

theorem isClassEscape_cases (ha : a.isClassEscape = true) :
    a = .escape 'd' ∨ a = .escape 'D' ∨ a = .escape 'w' ∨ a = .escape 'W' := by
  cases a with
  | escape c => simpa [Token.isClassEscape, or_assoc] using ha
  | single c => cases ha

/-! ## Reading parts -/

theorem range?_of_ne (hh : h ≠ .single '-') : E.range? a h b = none :=
  if_neg fun hc => hh hc.1

theorem range?_of_end (ha : E.end? a = none) : E.range? a h b = none := by
  simp [EscapeReading.range?, ha]

theorem range?_of_last (hb : E.end? b = none) : E.range? a h b = none := by
  simp [EscapeReading.range?, hb]

/-- A range is two characters with a hyphen between them. -/
theorem range?_eq_some {first last : Char} (hr : E.range? a h b = some (first, last)) :
    h = .single '-' ∧ E.end? a = some first ∧ E.end? b = some last := by
  unfold EscapeReading.range? at hr
  split at hr
  · rename_i hc
    obtain ⟨x, hx, hr⟩ := Option.bind_eq_some_iff.1 hr
    obtain ⟨y, hy, hr⟩ := Option.map_eq_some_iff.1 hr
    cases hr
    exact ⟨hc.1, hx, hy⟩
  · cases hr

theorem isClassEscape_of_end {first : Char} (ha : E.end? a = some first) :
    a.isClassEscape = false := by
  cases a with
  | single c => rfl
  | escape c =>
    rw [EscapeReading.end?] at ha
    split at ha
    · cases ha
    · next hc => exact Bool.eq_false_iff.2 hc

theorem range?_of_ends {first last : Char} (ha : a.Inner) (hfirst : E.end? a = some first)
    (hlast : E.end? b = some last) : E.range? a (.single '-') b = some (first, last) := by
  rw [EscapeReading.range?, if_pos ⟨rfl, ha.1⟩, hfirst, hlast]
  rfl

theorem parts_range {first last : Char} (hr : E.range? a h b = some (first, last)) :
    parts E (a :: h :: b :: ts) = .range first last :: parts E ts := by
  rw [parts, hr]

theorem parts_ofToken (hr : ∀ h b ts', ts = h :: b :: ts' → E.range? a h b = none) :
    parts E (a :: ts) = .ofToken a :: parts E ts := by
  rcases ts with _ | ⟨h, _ | ⟨b, ts⟩⟩
  · rfl
  · rfl
  · rw [parts, hr h b ts rfl]

theorem parts_closing : parts E (.single ']' :: rest) = .closing :: parts E rest :=
  parts_ofToken fun _ _ _ _ => range?_of_end rfl

theorem parts_digit : parts E ((Token.escape 'd').respelled ++ rest) =
    .range '0' '9' :: parts E rest :=
  parts_range rfl

theorem parts_word : parts E ((Token.escape 'w').respelled ++ rest) =
    .range '0' '9' :: .range 'A' 'Z' :: .range 'a' 'z' :: parts E (.single '_' :: rest) := by
  show parts E (.single '0' :: .single '-' :: .single '9' :: .single 'A' :: .single '-' ::
    .single 'Z' :: .single 'a' :: .single '-' :: .single 'z' :: .single '_' :: rest) = _
  rw [parts_range rfl, parts_range rfl, parts_range rfl]

theorem parts_notDigit : parts E ((Token.escape 'D').respelled ++ rest) =
    (Part.item (.escape 'D')).spelled ++ parts E rest := by
  show parts E (.single '[' :: .single '^' :: .single '0' :: .single '-' :: .single '9' ::
    .single ']' :: rest) = _
  rw [parts_ofToken (by rintro _ _ _ ⟨⟩; rfl), parts_ofToken (by rintro _ _ _ ⟨⟩; rfl),
    parts_range rfl, parts_closing]
  rfl

theorem parts_notWord : parts E ((Token.escape 'W').respelled ++ rest) =
    (Part.item (.escape 'W')).spelled ++ parts E rest := by
  show parts E (.single '[' :: .single '^' :: .single '0' :: .single '-' :: .single '9' ::
    .single 'A' :: .single '-' :: .single 'Z' :: .single 'a' :: .single '-' :: .single 'z' ::
    .single '_' :: .single ']' :: rest) = _
  rw [parts_ofToken (by rintro _ _ _ ⟨⟩; rfl), parts_ofToken (by rintro _ _ _ ⟨⟩; rfl),
    parts_range rfl, parts_range rfl, parts_range rfl, parts_ofToken, parts_closing]
  · rfl
  · rintro _ _ _ ⟨⟩
    exact range?_of_ne (by decide)

theorem spelled_kept (ha : a.isClassEscape = false) : (Part.item a).spelled = [.item a] := by
  unfold Part.spelled
  split <;> simp_all [Token.isClassEscape]

theorem ofToken_inner (ha : a.Inner) : Part.ofToken a = .item a := by
  rw [Part.ofToken, if_neg ha.1, if_neg ha.2]

/-! ## What comes to stand beside a hyphen -/

theorem before?_kept (ha : a.isClassEscape = false) : E.before? a = E.end? a := by
  unfold EscapeReading.before?
  split
  · cases ha
  · rfl

theorem after?_kept (ha : a.isClassEscape = false) : E.after? a = E.end? a := by
  unfold EscapeReading.after?
  split <;> first | rfl | cases ha

/-- The text of a token that a range can begin with ends in a character that no range of the text
itself has taken. -/
theorem respelled_before (ha : a.Inner) {first : Char} (hfirst : E.before? a = some first) :
    ∃ pre t, (Part.item a).spelled = pre ++ [.item t] ∧ t.Inner ∧ E.end? t = some first ∧
      ∀ rest, parts E (a.respelled ++ rest) = pre ++ parts E (t :: rest) := by
  cases hc : a.isClassEscape with
  | true =>
    rcases isClassEscape_cases hc with rfl | rfl | rfl | rfl
    · cases hfirst
    · cases hfirst
    · exact ⟨[.range '0' '9', .range 'A' 'Z', .range 'a' 'z'], .single '_', rfl,
        ⟨by decide, by decide⟩, hfirst, fun _ => parts_word⟩
    · cases hfirst
  | false =>
    refine ⟨[], a, spelled_kept hc, ha, by rw [← before?_kept hc, hfirst], fun rest => ?_⟩
    rw [respelled_kept hc]
    rfl

/-- The text of a token that no range can begin with is read by itself. -/
theorem parts_respelled_of_none (ha : a.Inner) (hfirst : E.before? a = none) :
    parts E (a.respelled ++ rest) = (Part.item a).spelled ++ parts E rest := by
  cases hc : a.isClassEscape with
  | true =>
    rcases isClassEscape_cases hc with rfl | rfl | rfl | rfl
    · exact parts_digit
    · exact parts_notDigit
    · cases hfirst
    · exact parts_notWord
  | false =>
    rw [before?_kept hc] at hfirst
    rw [respelled_kept hc, spelled_kept hc, List.singleton_append, List.singleton_append,
      parts_ofToken fun _ _ _ _ => range?_of_end hfirst, ofToken_inner ha]

/-- The text of a token begins with the character that a range can end with. -/
theorem respelled_after (b : Token) : ∃ t rest, b.respelled = t :: rest ∧ E.end? t = E.after? b ∧
    ∀ c, c = '-' ∨ c = '^' → (t = .single c ↔ b = .single c) := by
  cases hc : b.isClassEscape with
  | true =>
    rcases isClassEscape_cases hc with rfl | rfl | rfl | rfl
    · exact ⟨.single '0', _, rfl, rfl, by rintro c (rfl | rfl) <;> decide⟩
    · exact ⟨.single '[', _, rfl, rfl, by rintro c (rfl | rfl) <;> decide⟩
    · exact ⟨.single '0', _, rfl, rfl, by rintro c (rfl | rfl) <;> decide⟩
    · exact ⟨.single '[', _, rfl, rfl, by rintro c (rfl | rfl) <;> decide⟩
  | false => exact ⟨b, [], respelled_kept hc, (after?_kept hc).symm, fun _ _ => Iff.rfl⟩

/-- The tokens that some tokens in brackets are spelled out to. -/
def respell (ts : List Token) : List Token :=
  ts.flatMap Token.respelled

theorem respell_cons : respell (a :: ts) = a.respelled ++ respell ts :=
  List.flatMap_cons

theorem respell_eq_hyphen {b' : Token} {rest : List Token}
    (hts : respell ts = .single '-' :: b' :: rest) :
    ∃ b tl, ts = .single '-' :: b :: tl ∧ E.end? b' = E.after? b := by
  rcases ts with _ | ⟨h, tl⟩
  · cases hts
  · obtain ⟨t, more, ht, -, hhyphen⟩ := respelled_after (E := E) h
    rw [respell_cons, ht, List.cons_append] at hts
    obtain rfl : h = .single '-' := (hhyphen '-' (.inl rfl)).1 (List.cons.inj hts).1
    rw [respelled_kept rfl] at ht
    obtain ⟨-, rfl⟩ := List.cons.inj ht
    rcases tl with _ | ⟨b, tl⟩
    · cases (List.cons.inj hts).2
    · obtain ⟨t', more, ht', hend, -⟩ := respelled_after (E := E) b
      rw [respell_cons, ht'] at hts
      obtain rfl : t' = b' := (List.cons.inj (List.cons.inj hts).2).1
      exact ⟨b, tl, rfl, hend⟩

/-- Where no hyphen after a token comes to stand between two characters, the text of the token is
read by itself. -/
theorem parts_respelled_of_apart (ha : a.Inner)
    (hapart : ∀ b tl, ts = .single '-' :: b :: tl → (E.before? a).isSome = true →
      E.after? b = none) :
    parts E (respell (a :: ts)) = (Part.item a).spelled ++ parts E (respell ts) := by
  rw [respell_cons]
  cases hfirst : E.before? a with
  | none => exact parts_respelled_of_none ha hfirst
  | some first =>
    obtain ⟨pre, t, hspelled, ht, -, hparts⟩ := respelled_before ha hfirst
    rw [hparts, hspelled, List.append_assoc, List.singleton_append, ← ofToken_inner ht]
    congr 1
    refine parts_ofToken fun h b' rest hts => ?_
    by_cases hh : h = .single '-'
    · subst hh
      obtain ⟨b, tl, rfl, hend⟩ := respell_eq_hyphen (E := E) hts
      exact range?_of_last (hend.trans (hapart b tl rfl (by rw [hfirst]; rfl)))
    · exact range?_of_ne hh

/-- A hyphen that comes to stand between two characters makes a range of them. -/
theorem parts_respelled_of_joined (ts : List Token) (ha : a.Inner) {first last : Char}
    (hfirst : E.before? a = some first) (hlast : E.after? b = some last) :
    ∃ pre t rest, (Part.item a).spelled = pre ++ [.item t] ∧
      parts E (respell (a :: .single '-' :: b :: ts)) = pre ++ .range first last :: rest := by
  obtain ⟨pre, t, hspelled, ht, hend, hparts⟩ := respelled_before ha hfirst
  obtain ⟨t', more, ht', hend', -⟩ := respelled_after (E := E) b
  refine ⟨pre, t, parts E (more ++ respell ts), hspelled, ?_⟩
  rw [respell_cons, hparts, respell_cons, respelled_kept rfl, respell_cons, ht']
  congr 1
  exact parts_range (range?_of_ends ht hend (hend'.trans hlast))

/-- The parts of spelled-out brackets are the parts that those of the brackets are spelled out to,
unless a hyphen comes to stand between two characters. -/
theorem parts_respell_iff (hts : ∀ t ∈ ts, t.Inner) :
    parts E (respell ts) = (parts E ts).flatMap Part.spelled ↔ joins E ts = false := by
  fun_induction joins E ts with
  | case1 a h b ts range hr ih =>
    obtain ⟨first, last⟩ := range
    obtain ⟨rfl, hfirst, hlast⟩ := range?_eq_some hr
    have hrespell : respell (a :: .single '-' :: b :: ts) =
        a :: .single '-' :: b :: respell ts := by
      rw [respell_cons, respell_cons, respell_cons, respelled_kept (isClassEscape_of_end hfirst),
        respelled_kept rfl, respelled_kept (isClassEscape_of_end hlast)]
      rfl
    rw [hrespell, parts_range hr, parts_range hr, ← ih fun t ht => hts t (by simp [ht])]
    show _ :: _ = _ :: _ ↔ _
    rw [List.cons.injEq, and_iff_right rfl]
    rfl
  | case2 a h b ts hr ih =>
    have ha : a.Inner := hts a (by simp)
    rw [parts_ofToken (by rintro _ _ _ ⟨⟩; exact hr), ofToken_inner ha, List.flatMap_cons]
    by_cases hjoin : h = .single '-' ∧ (E.before? a).isSome = true ∧ (E.after? b).isSome = true
    · obtain ⟨rfl, hfirst, hlast⟩ := hjoin
      obtain ⟨first, hfirst⟩ := Option.isSome_iff_exists.1 hfirst
      obtain ⟨last, hlast⟩ := Option.isSome_iff_exists.1 hlast
      obtain ⟨pre, t, rest, hspelled, hparts⟩ := parts_respelled_of_joined ts ha hfirst hlast
      rw [hparts, hspelled, hfirst, hlast]
      simp
    · rw [parts_respelled_of_apart ha, List.append_cancel_left_eq,
        ih fun t ht => hts t (List.mem_cons_of_mem _ ht)]
      · have hjoin' : (decide (h = .single '-') && (E.before? a).isSome && (E.after? b).isSome) =
            false := by
          simpa [and_assoc] using hjoin
        rw [hjoin', Bool.false_or]
      · rintro _ _ ⟨⟩ hfirst
        simpa [hfirst] using hjoin
  | case3 a ts hshort ih =>
    -- one token or two: there is no hyphen with tokens on both sides
    have ha : a.Inner := hts a (by simp)
    rw [parts_respelled_of_apart ha, parts_ofToken, ofToken_inner ha, List.flatMap_cons,
      List.append_cancel_left_eq, ih fun t ht => hts t (List.mem_cons_of_mem _ ht)]
    · rintro h b ts' rfl
      exact absurd rfl (hshort h b ts')
    · rintro b tl rfl
      exact absurd rfl (hshort _ b tl)
  | case4 => exact iff_of_true rfl rfl

/-- A hyphen comes to stand between two characters only if it stands beside an escape for digits or
word characters. -/
theorem joins_eq_false (hts : ∀ t ∈ ts, t.Inner)
    (hapart : ∀ before a b after, ts = before ++ a :: .single '-' :: b :: after →
      a.isClassEscape = false ∧ b.isClassEscape = false) : joins E ts = false := by
  fun_induction joins E ts with
  | case1 a h b ts range hr ih =>
    refine ih (fun t ht => hts t (by simp [ht])) fun before a' b' after hsplit => ?_
    exact hapart (a :: h :: b :: before) a' b' after (by simp [hsplit])
  | case2 a h b ts hr ih =>
    rw [ih (fun t ht => hts t (.tail _ ht)) fun before a' b' after hsplit =>
      hapart (a :: before) a' b' after (by simp [hsplit]), Bool.or_false]
    rw [← Bool.not_eq_true, Bool.and_eq_true, Bool.and_eq_true, decide_eq_true_eq]
    rintro ⟨⟨rfl, hfirst⟩, hlast⟩
    obtain ⟨ha, hb⟩ := hapart [] a b ts rfl
    rw [before?_kept ha] at hfirst
    rw [after?_kept hb] at hlast
    obtain ⟨first, hfirst⟩ := Option.isSome_iff_exists.1 hfirst
    obtain ⟨last, hlast⟩ := Option.isSome_iff_exists.1 hlast
    rw [range?_of_ends (hts a (by simp)) hfirst hlast] at hr
    cases hr
  | case3 a ts hshort ih =>
    exact ih (fun t ht => hts t (.tail _ ht)) fun before a' b' after hsplit =>
      hapart (a :: before) a' b' after (by simp [hsplit])
  | case4 => rfl

/-! ## The characters that brackets have -/

/-- Parts that no bracket among them cuts. -/
def Part.Plain (p : Part) : Prop :=
  p ≠ .opening ∧ p ≠ .closing

theorem plain_of_parts (hts : ∀ t ∈ ts, t.Inner) : ∀ p ∈ parts E ts, p.Plain := by
  fun_induction parts E ts with
  | case1 a h b ts first last hr ih =>
    exact List.forall_mem_cons.2 ⟨by simp [Part.Plain], ih fun t ht => hts t (by simp [ht])⟩
  | case2 a h b ts hr ih =>
    rw [ofToken_inner (hts a (by simp))]
    exact List.forall_mem_cons.2 ⟨by simp [Part.Plain], ih fun t ht => hts t (.tail _ ht)⟩
  | case3 a ts hshort ih =>
    rw [ofToken_inner (hts a (by simp))]
    exact List.forall_mem_cons.2 ⟨by simp [Part.Plain], ih fun t ht => hts t (.tail _ ht)⟩
  | case4 => simp

variable (E) (c : Char)

/-- Whether a token in brackets has a character. Escapes for digits and word characters have those
of ASCII. -/
def Token.has : Token → Bool
  | .single x => c = x
  | .escape 'd' => c.isDigit
  | .escape 'D' => !c.isDigit
  | .escape 'w' => Text.isAsciiWordCharacter c
  | .escape 'W' => !Text.isAsciiWordCharacter c
  | .escape x =>
    match E.char? x with
    | some y => c = y
    | none => E.has x c

/-- Whether a part has a character. -/
def Part.has : Part → Bool
  | .item t => t.has E c
  | .range first last => first ≤ c && c ≤ last
  | .opening | .closing => false

/-- Brackets among parts, as far as they are read: whether they are negated, and whether one of
their parts has the character. -/
structure Nested where
  negated : Bool
  found : Bool

/-- Whether one of some parts has a character, with brackets among them as parts. -/
def anyHas : Option Nested → List Part → Bool
  | none, .opening :: .item (.single '^') :: ps => anyHas (some ⟨true, false⟩) ps
  | none, .opening :: ps => anyHas (some ⟨false, false⟩) ps
  | none, p :: ps => p.has E c || anyHas none ps
  | some n, .closing :: ps => (n.negated ^^ n.found) || anyHas none ps
  | some n, p :: ps => anyHas (some { n with found := n.found || p.has E c }) ps
  | _, [] => false

variable {E c}

theorem anyHas_cons {p : Part} {ps : List Part} (hp : p.Plain) :
    anyHas E c none (p :: ps) = (p.has E c || anyHas E c none ps) := by
  rw [anyHas]
  · rintro _ rfl
    exact absurd rfl hp.1
  · rintro rfl
    exact absurd rfl hp.1

theorem has_digits : (Part.range '0' '9').has E c = c.isDigit :=
  rfl

/-- The parts for word characters have the word characters of ASCII. -/
theorem has_words : ((Part.range '0' '9').has E c || ((Part.range 'A' 'Z').has E c ||
    ((Part.range 'a' 'z').has E c || (Part.item (.single '_')).has E c))) =
      Text.isAsciiWordCharacter c := by
  have hupper : (Part.range 'A' 'Z').has E c = c.isUpper := by
    simp [Part.has, Char.isUpper, Char.le_def]
  have hlower : (Part.range 'a' 'z').has E c = c.isLower := by
    simp [Part.has, Char.isLower, Char.le_def]
  rw [has_digits, hupper, hlower, Text.isAsciiWordCharacter, Char.isAlphanum, Char.isAlpha,
    Bool.or_comm _ c.isDigit, Bool.or_assoc, Bool.or_assoc]
  rfl

/-- The parts that a part is spelled out to have the characters of the part. -/
theorem anyHas_spelled {p : Part} (hp : p.Plain) (ps : List Part) :
    anyHas E c none (p.spelled ++ ps) = (p.has E c || anyHas E c none ps) := by
  unfold Part.spelled
  split
  · exact anyHas_cons ⟨nofun, nofun⟩
  · simp only [List.cons_append, List.nil_append, anyHas, Bool.false_or, Bool.true_bne, has_digits]
    rfl
  · have hword : (Part.item (.escape 'w')).has E c = Text.isAsciiWordCharacter c := rfl
    simp only [List.cons_append, List.nil_append, anyHas, hword, ← has_words (E := E),
      Bool.or_assoc]
  · have hword : (Part.item (.escape 'W')).has E c = !Text.isAsciiWordCharacter c := rfl
    simp only [List.cons_append, List.nil_append, anyHas, hword, ← has_words (E := E),
      Bool.or_assoc, Bool.false_or, Bool.true_bne]
  · exact anyHas_cons hp

theorem anyHas_flatMap_spelled {ps : List Part} (hps : ∀ p ∈ ps, p.Plain) :
    anyHas E c none (ps.flatMap Part.spelled) = anyHas E c none ps := by
  induction ps with
  | nil => rfl
  | cons p ps ih =>
    rw [List.flatMap_cons, anyHas_spelled (hps p (by simp)), anyHas_cons (hps p (by simp)),
      ih fun q hq => hps q (.tail _ hq)]

end

/-! ## Brackets of a pattern -/

/-- Whether the tokens between brackets begin with the sign that negates them. -/
def isNegated : List Token → Bool
  | .single '^' :: _ => true
  | _ => false

/-- The tokens between brackets without the sign that negates them. -/
def interior : List Token → List Token
  | .single '^' :: ts => ts
  | ts => ts

/-- Whether brackets have a character. -/
def bracketHas (E : EscapeReading) (body : List Token) (c : Char) : Bool :=
  isNegated body ^^ anyHas E c none (parts E (interior body))

section

variable {E : EscapeReading} {ts us body : List Token}

theorem interior_of_ne {t : Token} (ht : t ≠ .single '^') :
    isNegated (t :: ts) = false ∧ interior (t :: ts) = t :: ts := by
  constructor
  · unfold isNegated
    split <;> simp_all
  · unfold interior
    split <;> simp_all

/-- Spelling out leaves the sign that negates brackets where it is. -/
theorem interior_respell (body : List Token) : isNegated (respell body) = isNegated body ∧
    interior (respell body) = respell (interior body) := by
  rcases body with _ | ⟨t, ts⟩
  · exact ⟨rfl, rfl⟩
  obtain ⟨t', more, hspelled, -, hsign⟩ := respelled_after (E := .apart) t
  by_cases ht : t = .single '^'
  · subst ht
    exact ⟨rfl, rfl⟩
  · have ht' : t' ≠ .single '^' := mt (hsign '^' (.inr rfl)).1 ht
    rw [respell_cons, hspelled, List.cons_append, (interior_of_ne ht).1, (interior_of_ne ht).2,
      (interior_of_ne ht').1, (interior_of_ne ht').2, respell_cons, hspelled]
    exact ⟨rfl, rfl⟩

theorem placed_append (inClass : Bool) : placed inClass (ts ++ us) =
    placed inClass ts ++ placed (ts.foldl Token.inClassAfter inClass) us := by
  induction ts generalizing inClass with
  | nil => rfl
  | cons t ts ih => rw [List.cons_append, placed, ih]; rfl

theorem spelledTokens_append (inClass : Bool) : spelledTokens inClass (ts ++ us) =
    spelledTokens inClass ts ++ spelledTokens (ts.foldl Token.inClassAfter inClass) us := by
  rw [spelledTokens, placed_append, List.flatMap_append]
  rfl

theorem Token.Inner.inClassAfter {t : Token} (ht : t.Inner) : t.inClassAfter true = true := by
  cases t with
  | escape c => rfl
  | single c => exact Token.inClassAfter_single nofun fun _ hc => ht.2 (by rw [hc])

theorem foldl_inClassAfter (hbody : ∀ t ∈ body, t.Inner) :
    body.foldl Token.inClassAfter true = true := by
  induction body with
  | nil => rfl
  | cons t ts ih =>
    rw [List.foldl_cons, (hbody t (by simp)).inClassAfter, ih fun u hu => hbody u (.tail _ hu)]

theorem spelledTokens_body (hbody : ∀ t ∈ body, t.Inner) :
    spelledTokens true body = respell body := by
  induction body with
  | nil => rfl
  | cons t ts ih =>
    rw [respell_cons, ← ih fun u hu => hbody u (.tail _ hu), spelledTokens, placed,
      (hbody t (by simp)).inClassAfter]
    rfl

theorem Token.Inner.of_interior (hbody : ∀ t ∈ body, t.Inner) : ∀ t ∈ interior body, t.Inner := by
  unfold interior
  split
  · exact fun t ht => hbody t (.tail _ ht)
  · exact hbody

theorem bracketHas_respell (hbody : ∀ t ∈ body, t.Inner) (hjoins : joins E (interior body) = false)
    (c : Char) : bracketHas E (respell body) c = bracketHas E body c := by
  have hinner : ∀ t ∈ interior body, t.Inner := Token.Inner.of_interior hbody
  rw [bracketHas, (interior_respell body).1, (interior_respell body).2,
    (parts_respell_iff hinner).2 hjoins, anyHas_flatMap_spelled (plain_of_parts hinner)]
  rfl

/-- Brackets in a pattern stay brackets when it is spelled out, and each token between them is
replaced by the tokens of its own text. Read anew, they have the ranges of the brackets as they were
and those of the texts, and no others, if and only if no hyphen that was no sign of a range comes to
stand between two characters. Then they have the same characters as before, where the escapes for
digits and word characters have those of ASCII. -/
theorem asciiClasses_bracket_iff (E : EscapeReading) (source : String)
    (before body after : List Token)
    (hsource : tokens source.toList = before ++ .single '[' :: (body ++ .single ']' :: after))
    (hbefore : before.foldl Token.inClassAfter false = false) (hbody : ∀ t ∈ body, t.Inner) :
    tokens (asciiClasses source).toList = spelledTokens false before ++
        .single '[' :: (respell body ++ .single ']' :: spelledTokens false after) ∧
      (parts E (interior (respell body)) = (parts E (interior body)).flatMap Part.spelled ↔
        joins E (interior body) = false) ∧
      (joins E (interior body) = false →
        ∀ c, bracketHas E (respell body) c = bracketHas E body c) := by
  refine ⟨?_, ?_, bracketHas_respell hbody⟩
  · rw [asciiClasses, String.toList_ofList, tokens_asciiClassesFrom, hsource, spelledTokens_append,
      hbefore]
    show _ ++ .single '[' :: spelledTokens true (body ++ .single ']' :: after) = _
    rw [spelledTokens_append, foldl_inClassAfter hbody, spelledTokens_body hbody]
    rfl
  · rw [(interior_respell body).2]
    exact parts_respell_iff (Token.Inner.of_interior hbody)

end

/-- Negated brackets with a range, and with a hyphen between two escapes. -/
theorem asciiClasses_bracket_hyphens :
    let source := "a[^\\w+-/\\]-\\D]\\d"
    let before := [Token.single 'a']
    let body : List Token := [.single '^', .escape 'w', .single '+', .single '-', .single '/',
      .escape ']', .single '-', .escape 'D']
    let after := [Token.escape 'd']
    (tokens source.toList = before ++ .single '[' :: (body ++ .single ']' :: after) ∧
      before.foldl Token.inClassAfter false = false ∧ (∀ t ∈ body, t.Inner) ∧
      joins .apart (interior body) = false) ∧
    tokens (asciiClasses source).toList = spelledTokens false before ++
        .single '[' :: (respell body ++ .single ']' :: spelledTokens false after) ∧
      parts .apart (interior (respell body)) = (parts .apart (interior body)).flatMap Part.spelled ∧
      ∀ c, bracketHas .apart (respell body) c = bracketHas .apart body c := by
  intro source before body after
  have hsource : tokens source.toList =
      before ++ .single '[' :: (body ++ .single ']' :: after) := by decide
  have hbody : ∀ t ∈ body, t.Inner := by
    unfold Token.Inner
    decide
  have hjoins : joins .apart (interior body) = false := by decide
  obtain ⟨htokens, hparts, hhas⟩ :=
    asciiClasses_bracket_iff .apart source before body after hsource rfl hbody
  exact ⟨⟨hsource, rfl, hbody, hjoins⟩, htokens, hparts.2 hjoins, hhas hjoins⟩

/-- A hyphen after the escape for word characters comes to stand behind an underscore: it is no
longer matched, and characters from the underscore on are. -/
theorem asciiClasses_joined_range :
    let body : List Token := [.escape 'w', .single '-', .single 'x']
    let found := fun subject => (compile "[\\w-x]" "").toOption.bind fun p => p.run subject 0
    asciiClasses "[\\w-x]" = "[0-9A-Za-z_-x]" ∧
      tokens "[\\w-x]".toList = .single '[' :: (body ++ [.single ']']) ∧
      tokens "[0-9A-Za-z_-x]".toList = .single '[' :: (respell body ++ [.single ']']) ∧
      parts .apart body = [.item (.escape 'w'), .item (.single '-'), .item (.single 'x')] ∧
      parts .apart (respell body) =
        [.range '0' '9', .range 'A' 'Z', .range 'a' 'z', .range '_' 'x'] ∧
      bracketHas .apart body '-' = true ∧ bracketHas .apart (respell body) '-' = false ∧
      bracketHas .apart body '`' = false ∧ bracketHas .apart (respell body) '`' = true ∧
      found "-" = none ∧ found "`" = some ⟨(0, 1), []⟩ := by
  refine ⟨by decide, by decide, by decide, by decide, by decide, by decide, by decide, by decide,
    by decide, ?_, ?_⟩
  · cbv
  · cbv

end AdaptiveTree.Pattern
