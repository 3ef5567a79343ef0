import PenPlotter.Notation
import PenPlotter.Proofs.Number.Shortest

/-!
# Reading what is written without blanks

Settings are written in the plainest form of the object notation: no blanks, no comments, no
underscores, no units and no comma behind the last item.  This file says, for each part of the
notation that is used, that it is read back when it is written so and something else follows: a name
(`identifier?_append`), an amount (`number?_text`), a truth value (`truth?_append`).

Items are read one after the other, each from what the earlier ones have been gathered into.
`Gathers` says of a list of texts that they are items, and what they are gathered into; from it,
`separated?_intercalate` reads the whole list with its commas.
-/

namespace PenPlotter

namespace Notation

/-! ## 1. Texts that begin plainly -/

/-- Whether a text begins with a character, and neither with a blank nor with a comment. -/
def BeginsPlainly (t : Text) : Prop :=
  ∃ c rest, t = c :: rest ∧ isBlank c = false ∧ c ≠ '/'

theorem BeginsPlainly.append {t : Text} (h : BeginsPlainly t) (rest : Text) :
    BeginsPlainly (t ++ rest) := by
  obtain ⟨c, t', rfl, hc⟩ := h
  exact ⟨c, t' ++ rest, rfl, hc⟩

/-- Nothing is passed over where a text begins plainly. -/
theorem BeginsPlainly.skipBlank?_eq {t : Text} (h : BeginsPlainly t) : skipBlank? t = some t := by
  obtain ⟨c, rest, rfl, hblank, hslash⟩ := h
  rw [skipBlank?.eq_5 _ _ (fun _ h _ => hslash h) (fun _ h _ => hslash h) hslash, hblank]
  rfl

theorem expect?_self (c : Char) (rest : Text) : expect? c (c :: rest) = some rest := by
  rw [expect?, if_pos rfl]

theorem expect?_of_ne {c d : Char} (h : d ≠ c) (rest : Text) : expect? c (d :: rest) = none := by
  rw [expect?, if_neg h]

/-! ## 2. Words and names -/

theorem expectWord?_append (word rest : Text) : expectWord? word (word ++ rest) = some rest := by
  induction word with
  | nil => rfl
  | cons c word ih => rw [expectWord?, List.cons_append, expect?_self, Option.bind_some, ih]

theorem eq_append_of_expectWord? {word t rest : Text} (h : expectWord? word t = some rest) :
    t = word ++ rest := by
  induction word generalizing t with
  | nil => exact Option.some.inj h
  | cons c word ih =>
    obtain ⟨t', ht', hrest⟩ := Option.bind_eq_some_iff.mp h
    cases t with
    | nil => cases ht'
    | cons d tail =>
      rw [expect?] at ht'
      split at ht'
      · rename_i hd
        rw [hd, Option.some.inj ht', ih hrest, List.cons_append]
      · cases ht'

/-- A word stands alone before a character that is not one of a name. -/
theorem expectAlone?_append (word : Text) {c : Char} (hc : Text.isNameRest c = false)
    (rest : Text) : expectAlone? word (word ++ c :: rest) = some (c :: rest) := by
  rw [expectAlone?, expectWord?_append, Option.filter_some, List.head?_cons, Option.any_some, hc]
  rfl

/-- Only a text that begins with a word is read as one. -/
theorem expectAlone?_eq_none {word t : Text} (h : ¬ word <+: t) : expectAlone? word t = none := by
  rw [expectAlone?]
  cases hword : expectWord? word t with
  | none => rfl
  | some rest => exact absurd ⟨rest, (eq_append_of_expectWord? hword).symm⟩ h

/-- Whether a text is a name that needs no mark. -/
def IsPlainName (name : Text) : Prop :=
  ∃ c rest, name = c :: rest ∧ Text.isNameStart c = true ∧ ∀ d ∈ rest, Text.isNameRest d = true

/-- **A name is read up to the first character that may follow one.** -/
theorem identifier?_append {name : Text} (hname : IsPlainName name) {c : Char}
    (hc : isNoNameEnd c = false) (rest : Text) :
    identifier? (name ++ c :: rest) = some (name, c :: rest) := by
  obtain ⟨d, name, rfl, hd, hname⟩ := hname
  have hrest : Text.isNameRest c = false := by
    simp only [isNoNameEnd, isRawName, Bool.or_eq_false_iff] at hc
    exact hc.1.1.1.1.1.1
  have hmark : ∀ more, d = 'r' → name ++ c :: rest = '#' :: more → False := by
    intro more _ h
    cases name with
    | nil =>
      rw [(List.cons.inj h).1] at hc
      exact absurd hc (by decide)
    | cons e name =>
      have he := hname e List.mem_cons_self
      rw [(List.cons.inj h).1] at he
      exact absurd he (by decide)
  rw [List.cons_append, identifier?.eq_2 _ _ hmark, if_pos hd]
  simp only [Text.takeWhile_append hname hrest, Text.dropWhile_append hname hrest,
    List.head?_cons, Option.any_some, hc, Bool.false_eq_true, if_false]

/-- **A truth value is read back before a character that is not one of a name.** -/
theorem truth?_append (b : Bool) {c : Char} (hc : Text.isNameRest c = false) (rest : Text) :
    truth? ((if b then "true".toList else "false".toList) ++ c :: rest) = some (b, c :: rest) := by
  cases b with
  | true =>
    rw [if_pos rfl, truth?, expectAlone?_append _ hc]
  | false =>
    rw [if_neg Bool.false_ne_true, truth?, expectAlone?_eq_none (by simp),
      expectAlone?_append _ hc]
    rfl

/-! ## 3. Numbers -/

/-- Whether a character ends a number: it belongs neither to numbers nor to names. -/
def EndsNumber (c : Char) : Prop :=
  isNumberChar c = false ∧ Text.isNameRest c = false

theorem isNumberChar_of_isDigit {c : Char} (hc : c.isDigit = true) : isNumberChar c = true := by
  simp only [isNumberChar, hc, Bool.true_or]

/-- Without underscores, there is nothing to take out. -/
theorem withoutUnderscores?_eq {t : Text} (h : '_' ∉ t) (after : Bool) :
    withoutUnderscores? after t = some t := by
  induction t generalizing after with
  | nil => rfl
  | cons c rest ih =>
    obtain ⟨hc, hrest⟩ : '_' ≠ c ∧ '_' ∉ rest := by rwa [List.mem_cons, not_or] at h
    by_cases hpoint : c = '.'
    · rw [hpoint, withoutUnderscores?, ih hrest]
      rfl
    · rw [withoutUnderscores?.eq_4 _ _ _ (fun h => hc h.symm) hpoint, ih hrest]
      rfl

/-- Digits and a point are characters of numbers, and there is no underscore among them. -/
theorem isNumberChar_of_isPointed {t : Text} (h : Text.IsPointed t) :
    (∀ c ∈ t, isNumberChar c = true) ∧ '_' ∉ t := by
  obtain ⟨whole, places, rfl, -, hdigits⟩ := h
  have hmem {c : Char} (hc : c ∈ whole ++ '.' :: places) : c.isDigit = true ∨ c = '.' := by
    rw [List.mem_append, List.mem_cons] at hc
    rcases hc with hc | rfl | hc
    · exact .inl (hdigits c (List.mem_append_left _ hc))
    · exact .inr rfl
    · exact .inl (hdigits c (List.mem_append_right _ hc))
  constructor
  · intro c hc
    rcases hmem hc with hdigit | rfl
    · exact isNumberChar_of_isDigit hdigit
    · decide
  · intro hunderscore
    rcases hmem hunderscore with hdigit | hpoint
    · exact absurd hdigit (by decide)
    · exact absurd hpoint (by decide)

/-- A text with a digit among its first two characters begins with no number word. -/
theorem numberWord?_eq_none {units : List Text} {t : Text} {d : Char} (hd : d ∈ t.take 2)
    (hdigit : d.isDigit = true) : numberWord? units t = none := by
  have hwords : ∀ word ∈ numberWords, 2 ≤ word.length ∧ word.any Char.isDigit = false := by decide
  refine List.findSome?_eq_none_iff.mpr fun word hword => ?_
  refine List.findSome?_eq_none_iff.mpr fun unit _ => ?_
  obtain ⟨hlength, hletters⟩ := hwords word hword
  rw [expectAlone?_eq_none fun hprefix => ?_]
  · rfl
  · have hfront : t.take 2 <+: word :=
      List.prefix_of_prefix_length_le (List.take_prefix 2 t)
        ((List.prefix_append word unit).trans hprefix) ((List.length_take_le 2 t).trans hlength)
    exact List.any_eq_false.mp hletters d (hfront.subset hd) hdigit

/-- A number word is read before a character that is not one of a name. -/
theorem numberWord?_append (units : List Text) {word : Text} (hword : word ∈ numberWords) {c : Char}
    (hc : Text.isNameRest c = false) (rest : Text) :
    numberWord? units (word ++ c :: rest) = some (word, c :: rest) := by
  simp only [numberWords, List.map_cons, List.map_nil, List.mem_cons, List.not_mem_nil,
    or_false] at hword
  rcases hword with rfl | rfl | rfl | rfl | rfl | rfl <;>
    simp [numberWord?, numberWords, expectAlone?, expectWord?, expect?, hc]

/-- **Digits with a point are read up to the character that ends them**, with a sign or without. -/
theorem number?_of_isPointed {t pointed : Text} {n : Numeral} {c : Char}
    (hpointed : Text.IsPointed pointed) (ht : t = pointed ∨ t = '-' :: pointed)
    (hread : Numeral.read? t = some n) (hc : EndsNumber c) (rest : Text) :
    number? (t ++ c :: rest) = some (n, c :: rest) := by
  obtain ⟨hchars, hunderscore⟩ := isNumberChar_of_isPointed hpointed
  have hchars' : ∀ d ∈ t, isNumberChar d = true := by
    rcases ht with rfl | rfl
    · exact hchars
    · exact List.forall_mem_cons.mpr ⟨by decide, hchars⟩
  have hunderscore' : '_' ∉ t := by
    rcases ht with rfl | rfl
    · exact hunderscore
    · exact List.not_mem_cons_of_ne_of_not_mem (by decide) hunderscore
  have hword : numberWord? doubleUnits (t ++ c :: rest) = none := by
    obtain ⟨whole, places, rfl, hwhole, hdigits⟩ := hpointed
    obtain ⟨d, whole, rfl⟩ := List.exists_cons_of_ne_nil hwhole
    refine numberWord?_eq_none (d := d) ?_ (hdigits d List.mem_cons_self)
    rcases ht with rfl | rfl
    · exact List.mem_cons_self
    · exact List.mem_cons_of_mem _ List.mem_cons_self
  have hunit : skipUnit doubleUnits (c :: rest) = c :: rest := by
    have hf : c ≠ 'f' := by
      rintro rfl
      exact absurd hc.2 (by decide)
    rw [skipUnit, doubleUnits, List.findSome?_singleton, expectAlone?_eq_none]
    · rfl
    · rintro ⟨more, h⟩
      exact hf (List.cons.inj h).1.symm
  rw [number?, numberWithUnit?, hword, Text.takeWhile_append hchars' hc.1,
    Text.dropWhile_append hchars' hc.1, withoutUnderscores?_eq hunderscore', hunit]
  simp only [Option.bind_eq_bind, Option.bind_some, hread]
  rfl

/-- **An amount is read back from its notation**, up to the character that ends it. -/
theorem number?_text (a : Amount) {c : Char} (hc : EndsNumber c) (rest : Text) :
    ∃ n, number? (a.text ++ c :: rest) = some (n, c :: rest) ∧ Amount.ofNumeral n = a := by
  obtain ⟨n, hread, hn⟩ := Option.map_eq_some_iff.mp a.read?_text
  refine ⟨n, ?_, hn⟩
  rcases a.text_cases with hword | ⟨pointed, hpointed, ht⟩
  · have hwords : ∀ word ∈ ["inf".toList, "-inf".toList, "NaN".toList, "-NaN".toList],
        word ∈ numberWords := by decide
    rw [number?, numberWithUnit?, numberWord?_append _ (hwords _ hword) hc.2]
    simp only [hread, Option.map_some]
  · exact number?_of_isPointed hpointed ht hread hc rest

/-! ## 4. Items -/

/-- What the items of a list are gathered into, one after the other.  An item begins plainly and not
with the closing character, and is read up to the comma or the closing character behind it. -/
inductive Gathers {σ : Type} (close : Char) (item : σ → Text → Option (σ × Text)) :
    σ → List Text → σ → Prop
  | nil (s : σ) : Gathers close item s [] s
  | cons {s s' s'' : σ} {t : Text} {texts : List Text} (hbegins : BeginsPlainly t)
      (hclose : t.head? ≠ some close)
      (hread : ∀ c rest, c = ',' ∨ c = close → item s (t ++ c :: rest) = some (s', c :: rest))
      (hmore : Gathers close item s' texts s'') : Gathers close item s (t :: texts) s''

section

variable {σ : Type} {close : Char} {item : σ → Text → Option (σ × Text)} {s s' : σ}
  {texts : List Text}

theorem skipBlank?_cons {c : Char} (hc : isBlank c = false ∧ c ≠ '/') (rest : Text) :
    skipBlank? (c :: rest) = some (c :: rest) :=
  BeginsPlainly.skipBlank?_eq ⟨c, rest, rfl, hc⟩

/-- No closing character comes where an item begins. -/
theorem expect?_close_append {t : Text} (hbegins : BeginsPlainly t)
    (hclose : t.head? ≠ some close) (rest : Text) : expect? close (t ++ rest) = none := by
  obtain ⟨d, t, rfl, -⟩ := hbegins
  exact expect?_of_ne (fun h => hclose (congrArg some h)) _

/-- One item is read, and the comma behind it. -/
theorem separated?_item {t : Text} (hbegins : BeginsPlainly t) (hclose : t.head? ≠ some close)
    {rest : Text} (hread : item s (t ++ ',' :: rest) = some (s', ',' :: rest)) :
    separated? close item s (t ++ ',' :: rest) = separated? close item s' rest := by
  have hless : rest.length < (t ++ ',' :: rest).length := by
    rw [List.length_append, List.length_cons]
    omega
  rw [separated?, (hbegins.append _).skipBlank?_eq]
  simp only [expect?_close_append hbegins hclose, hread, expect?_self,
    skipBlank?_cons (c := ',') (by decide), if_pos hless]

/-- The last item is read, and the closing character behind it. -/
theorem separated?_last (hcomma : close ≠ ',') (hplain : isBlank close = false ∧ close ≠ '/')
    {t : Text} (hbegins : BeginsPlainly t) (hclose : t.head? ≠ some close) {rest : Text}
    (hread : item s (t ++ close :: rest) = some (s', close :: rest)) :
    separated? close item s (t ++ close :: rest) = some (s', rest) := by
  rw [separated?, (hbegins.append _).skipBlank?_eq]
  simp only [expect?_close_append hbegins hclose, hread, expect?_self, skipBlank?_cons hplain,
    expect?_of_ne hcomma, Option.map_some]

/-- **Items with commas between them are read up to the closing character.** -/
theorem separated?_intercalate (hcomma : close ≠ ',') (hplain : isBlank close = false ∧ close ≠ '/')
    (h : Gathers close item s texts s') (rest : Text) :
    separated? close item s ([','].intercalate texts ++ close :: rest) = some (s', rest) := by
  induction h with
  | nil s =>
    rw [List.intercalate_nil, List.nil_append, separated?, skipBlank?_cons hplain]
    simp only [expect?_self]
  | @cons s s' s'' t texts hbegins hclose hread hmore ih =>
    cases texts with
    | nil =>
      cases hmore
      rw [List.intercalate_singleton]
      exact separated?_last hcomma hplain hbegins hclose (hread close rest (.inr rfl))
    | cons u texts =>
      rw [List.intercalate_cons_cons, List.append_assoc, List.append_assoc, List.singleton_append]
      rw [separated?_item hbegins hclose (hread ',' _ (.inl rfl)), ih]

end

end Notation

end PenPlotter
