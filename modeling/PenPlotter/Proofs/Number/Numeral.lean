import Mathlib.Data.List.TakeWhile
import PenPlotter.Number.Numeral

/-!
# The notation of numbers

A numeral is an optional sign, and then a word or digits.  The words are those for the infinities
and for what is not a number, in any mixture of letter cases.  Digits may have a point in front,
among or behind them, and an exponent at the end.  `Numeral.Denotes` says so part by part, and the
reader accepts these texts and no other ones (`Numeral.read?_eq_some_iff`).

The parts are told apart by their first characters: no digit is a sign, a point or the letter of an
exponent, and the words begin with other letters.
-/

namespace PenPlotter

namespace Text

/-- Characters with a property are taken up to the first one without it. -/
theorem takeWhile_append {p : Char → Bool} {t : Text} {c : Char} (ht : ∀ d ∈ t, p d = true)
    (hc : p c = false) (rest : Text) : (t ++ c :: rest).takeWhile p = t := by
  rw [List.takeWhile_append_of_pos ht, List.takeWhile_cons_of_neg (ne_true_of_eq_false hc),
    List.append_nil]

/-- What is left when they are taken begins with that one. -/
theorem dropWhile_append {p : Char → Bool} {t : Text} {c : Char} (ht : ∀ d ∈ t, p d = true)
    (hc : p c = false) (rest : Text) : (t ++ c :: rest).dropWhile p = c :: rest := by
  rw [List.dropWhile_append_of_pos ht, List.dropWhile_cons_of_neg (ne_true_of_eq_false hc)]

end Text

namespace Numeral

/-! ## 1. The parts of a numeral -/

/-- Whether a text is an optional sign, and whether that is a minus. -/
inductive IsSign : Text → Bool → Prop
  | absent : IsSign [] false
  | plus : IsSign ['+'] false
  | minus : IsSign ['-'] true

/-- Whether a text is an optional exponent, and its value. -/
inductive IsExponent : Text → Int → Prop
  | absent : IsExponent [] 0
  | present {letter : Char} {sign digits : Text} {negative : Bool}
      (hletter : letter = 'e' ∨ letter = 'E') (hsign : IsSign sign negative) (hne : digits ≠ [])
      (hdigits : ∀ c ∈ digits, c.isDigit = true) :
      IsExponent (letter :: (sign ++ digits))
        (if negative then -(Text.natValue digits : Int) else Text.natValue digits)

/-- Whether a text stands behind the sign of a numeral. -/
inductive IsUnsigned (negative : Bool) : Text → Numeral → Prop
  | infinite {word : Text}
      (h : word.map Char.toLower = ['i', 'n', 'f'] ∨
        word.map Char.toLower = ['i', 'n', 'f', 'i', 'n', 'i', 't', 'y']) :
      IsUnsigned negative word (.infinite negative)
  | undefined {word : Text} (h : word.map Char.toLower = ['n', 'a', 'n']) :
      IsUnsigned negative word (.undefined negative)
  | whole {digits ending : Text} {exponent : Int} (hne : digits ≠ [])
      (hdigits : ∀ c ∈ digits, c.isDigit = true) (hending : IsExponent ending exponent) :
      IsUnsigned negative (digits ++ ending) (.decimal negative (Text.natValue digits) exponent)
  | pointed {whole places ending : Text} {exponent : Int} (hne : whole ++ places ≠ [])
      (hdigits : ∀ c ∈ whole ++ places, c.isDigit = true) (hending : IsExponent ending exponent) :
      IsUnsigned negative (whole ++ '.' :: (places ++ ending))
        (.decimal negative (Text.natValue (whole ++ places)) (exponent - places.length))

/-- Whether a text is the notation of a numeral. -/
def Denotes (t : Text) (n : Numeral) : Prop :=
  ∃ sign negative rest, IsSign sign negative ∧ IsUnsigned negative rest n ∧ t = sign ++ rest

/-! ## 2. Signs -/

theorem isSign_splitSign (t : Text) :
    ∃ sign, IsSign sign (splitSign t).1 ∧ t = sign ++ (splitSign t).2 := by
  unfold splitSign
  split
  · exact ⟨['-'], .minus, rfl⟩
  · exact ⟨['+'], .plus, rfl⟩
  · exact ⟨[], .absent, rfl⟩

/-- A sign is split off if no other one follows. -/
theorem splitSign_append {sign rest : Text} {negative : Bool} (hsign : IsSign sign negative)
    (hrest : ∀ c ∈ rest.head?, c ≠ '-' ∧ c ≠ '+') :
    splitSign (sign ++ rest) = (negative, rest) := by
  cases hsign with
  | plus | minus => rfl
  | absent =>
    rw [List.nil_append, splitSign.eq_def]
    split
    · exact absurd rfl (hrest '-' rfl).1
    · exact absurd rfl (hrest '+' rfl).2
    · rfl

/-! ## 3. Digits and what follows -/

theorem toLower_of_isDigit {c : Char} (h : c.isDigit = true) : c.toLower = c := by
  refine dif_neg fun hupper => ?_
  have hhigh : c.val ≤ '9'.val := of_decide_eq_true ((Bool.and_eq_true _ _).mp h).2
  exact absurd (UInt32.le_trans hupper.1 hhigh) (by decide)

/-- What is no digit is not among digits. -/
theorem ne_of_isDigit {c d : Char} (hc : c.isDigit = true) (hd : d.isDigit = false) : c ≠ d := by
  rintro rfl
  exact Bool.false_ne_true (hd ▸ hc)

theorem head?_digits {digits : Text} (hdigits : ∀ c ∈ digits, c.isDigit = true) :
    ∀ c ∈ digits.head?, c ≠ '-' ∧ c ≠ '+' := by
  intro c hc
  have hdigit := hdigits c (List.mem_of_head? hc)
  exact ⟨ne_of_isDigit hdigit (by decide), ne_of_isDigit hdigit (by decide)⟩

/-- **The exponents that are read.** -/
theorem readExponent?_eq_some_iff {t : Text} {e : Int} :
    readExponent? t = some e ↔ IsExponent t e := by
  constructor
  · intro h
    cases t with
    | nil =>
      cases h
      exact .absent
    | cons c rest =>
      obtain ⟨sign, hsign, hrest⟩ := isSign_splitSign rest
      simp only [readExponent?] at h
      generalize splitSign rest = parts at h hsign hrest
      split at h
      · split at h
        · rename_i hletter hdigits
          cases h
          rw [hrest]
          exact .present hletter hsign hdigits.1 (List.all_eq_true.mp hdigits.2)
        · cases h
      · cases h
  · intro h
    cases h with
    | absent => rfl
    | present hletter hsign hne hdigits =>
      simp only [readExponent?, splitSign_append hsign (head?_digits hdigits)]
      rw [if_pos hletter, if_pos ⟨hne, List.all_eq_true.mpr hdigits⟩]

/-- Digits and what they are followed by are told apart. -/
theorem span_digits {digits rest : Text} (hdigits : ∀ c ∈ digits, c.isDigit = true)
    (hrest : ∀ c ∈ rest.head?, c.isDigit = false) :
    (digits ++ rest).takeWhile Char.isDigit = digits ∧
      (digits ++ rest).dropWhile Char.isDigit = rest := by
  cases rest with
  | nil =>
    rw [List.append_nil]
    exact ⟨List.takeWhile_eq_self_iff.mpr hdigits, List.dropWhile_eq_nil_iff.mpr hdigits⟩
  | cons c more =>
    exact ⟨Text.takeWhile_append hdigits (hrest c rfl) more,
      Text.dropWhile_append hdigits (hrest c rfl) more⟩

theorem IsExponent.head? {t : Text} {e : Int} (h : IsExponent t e) :
    ∀ c ∈ t.head?, c.isDigit = false ∧ c ≠ '.' := by
  cases h with
  | absent => exact fun c hc => absurd hc (Option.not_mem_none c)
  | present hletter =>
    intro c hc
    cases hc
    rcases hletter with rfl | rfl <;> decide

theorem splitPlaces_of_head? {t : Text} (h : ∀ c ∈ t.head?, c ≠ '.') : splitPlaces t = ([], t) := by
  unfold splitPlaces
  split
  · exact absurd rfl (h '.' rfl)
  · rfl

/-- Behind a point there are places and an ending; without a point there are no places. -/
theorem splitPlaces_cases (t : Text) :
    (∃ places ending, t = '.' :: (places ++ ending) ∧ (∀ c ∈ places, c.isDigit = true) ∧
      splitPlaces t = (places, ending)) ∨ splitPlaces t = ([], t) := by
  unfold splitPlaces
  split
  · rename_i rest
    exact .inl ⟨_, _, congrArg _ List.takeWhile_append_dropWhile.symm,
      fun c hc => List.mem_takeWhile_imp hc, rfl⟩
  · exact .inr rfl

/-- The words begin with letters. -/
theorem map_toLower_ne_cons {c : Char} (hc : c.isDigit = true ∨ c = '.') {letter : Char}
    (hletter : letter.isDigit = false ∧ letter ≠ '.') (rest word : Text) :
    (c :: rest).map Char.toLower ≠ letter :: word := by
  intro h
  have hlower : c.toLower = letter := (List.cons.inj h).1
  rcases hc with hdigit | rfl
  · rw [toLower_of_isDigit hdigit] at hlower
    exact ne_of_isDigit hdigit hletter.1 hlower
  · exact hletter.2 hlower.symm

/-! ## 4. What stands behind the sign -/

theorem readUnsigned?_of_digits {negative : Bool} {t : Text}
    (hfirst : ∃ c rest, t = c :: rest ∧ (c.isDigit = true ∨ c = '.')) :
    readUnsigned? negative t =
      if t.takeWhile Char.isDigit = [] ∧ (splitPlaces (t.dropWhile Char.isDigit)).1 = [] then none
      else
        (readExponent? (splitPlaces (t.dropWhile Char.isDigit)).2).map fun exponent =>
          .decimal negative
            (Text.natValue (t.takeWhile Char.isDigit ++ (splitPlaces (t.dropWhile Char.isDigit)).1))
            (exponent - (splitPlaces (t.dropWhile Char.isDigit)).1.length) := by
  obtain ⟨c, rest, rfl, hc⟩ := hfirst
  have hinf := map_toLower_ne_cons hc (show ('i').isDigit = false ∧ 'i' ≠ '.' by decide) rest
  have hnan := map_toLower_ne_cons hc (show ('n').isDigit = false ∧ 'n' ≠ '.' by decide) rest
  simp only [readUnsigned?, hinf, hnan, or_self, if_false]

theorem IsUnsigned.of_readUnsigned? {negative : Bool} {t : Text} {n : Numeral}
    (h : readUnsigned? negative t = some n) : IsUnsigned negative t n := by
  have hdigits : ∀ c ∈ t.takeWhile Char.isDigit, c.isDigit = true :=
    fun c hc => List.mem_takeWhile_imp hc
  have ht : t.takeWhile Char.isDigit ++ t.dropWhile Char.isDigit = t :=
    List.takeWhile_append_dropWhile
  simp only [readUnsigned?] at h
  split at h
  · cases h
    exact .infinite ‹_›
  · split at h
    · cases h
      exact .undefined ‹_›
    · -- What is known of the digits and of what follows them is `hdigits` and `ht` from here on.
      generalize t.takeWhile Char.isDigit = digits at h hdigits ht
      generalize t.dropWhile Char.isDigit = behind at h ht
      subst ht
      split at h
      · cases h
      · rename_i hne
        obtain ⟨e, he, rfl⟩ := Option.map_eq_some_iff.mp h
        rw [readExponent?_eq_some_iff] at he
        rcases splitPlaces_cases behind with ⟨places, ending, rfl, hplaces, hsplit⟩ | hsplit
        · rw [hsplit] at he hne ⊢
          exact .pointed (fun hnil => hne (List.append_eq_nil_iff.mp hnil))
            (List.forall_mem_append.mpr ⟨hdigits, hplaces⟩) he
        · rw [hsplit] at he hne ⊢
          rw [List.append_nil, List.length_nil, Int.natCast_zero, Int.sub_zero]
          exact .whole (fun hnil => hne ⟨hnil, rfl⟩) hdigits he

theorem IsUnsigned.readUnsigned?_eq {negative : Bool} {t : Text} {n : Numeral}
    (h : IsUnsigned negative t n) : readUnsigned? negative t = some n := by
  cases h with
  | infinite hword => simp only [readUnsigned?, if_pos hword]
  | undefined hword =>
    simp only [readUnsigned?, hword]
    rfl
  | @whole digits ending e hne hdigits hending =>
    obtain ⟨c, more, rfl⟩ := List.exists_cons_of_ne_nil hne
    obtain ⟨htake, hdrop⟩ := span_digits hdigits fun c hc => (hending.head? c hc).1
    have hfirst : ∃ d rest, c :: more ++ ending = d :: rest ∧ (d.isDigit = true ∨ d = '.') :=
      ⟨_, _, rfl, .inl (hdigits c List.mem_cons_self)⟩
    rw [readUnsigned?_of_digits hfirst, htake, hdrop,
      splitPlaces_of_head? fun c hc => (hending.head? c hc).2, if_neg fun hnil => hne hnil.1,
      readExponent?_eq_some_iff.mpr hending, Option.map_some, List.append_nil, List.length_nil,
      Int.natCast_zero, Int.sub_zero]
  | @pointed whole places ending e hne hdigits hending =>
    obtain ⟨hwhole, hplaces⟩ := List.forall_mem_append.mp hdigits
    have hfirst : ∃ c rest, whole ++ '.' :: (places ++ ending) = c :: rest ∧
        (c.isDigit = true ∨ c = '.') := by
      cases whole with
      | nil => exact ⟨_, _, rfl, .inr rfl⟩
      | cons c more => exact ⟨_, _, rfl, .inl (hwhole c List.mem_cons_self)⟩
    obtain ⟨htake, hdrop⟩ := span_digits hplaces fun c hc => (hending.head? c hc).1
    have hpoint : ('.').isDigit = false := by decide
    have hsplit : splitPlaces ('.' :: (places ++ ending)) = (places, ending) := by
      rw [splitPlaces, htake, hdrop]
    rw [readUnsigned?_of_digits hfirst, Text.takeWhile_append hwhole hpoint,
      Text.dropWhile_append hwhole hpoint, hsplit,
      if_neg fun hnil => hne (List.append_eq_nil_iff.mpr hnil),
      readExponent?_eq_some_iff.mpr hending, Option.map_some]

/-- A word that begins with a letter begins with no sign. -/
theorem head?_of_map_toLower {t word : Text} {letter : Char}
    (h : t.map Char.toLower = letter :: word) (hletter : letter ≠ '-' ∧ letter ≠ '+') :
    ∀ c ∈ t.head?, c ≠ '-' ∧ c ≠ '+' := by
  cases t with
  | nil => cases h
  | cons c rest =>
    have hlower : c.toLower = letter := (List.cons.inj h).1
    intro d hd
    cases hd
    constructor
    · rintro rfl
      exact hletter.1 hlower.symm
    · rintro rfl
      exact hletter.2 hlower.symm

/-- Behind a sign no other one follows. -/
theorem IsUnsigned.head? {negative : Bool} {t : Text} {n : Numeral} (h : IsUnsigned negative t n) :
    ∀ c ∈ t.head?, c ≠ '-' ∧ c ≠ '+' := by
  cases h with
  | infinite hword =>
    rcases hword with hword | hword
    · exact head?_of_map_toLower hword (by decide)
    · exact head?_of_map_toLower hword (by decide)
  | undefined hword => exact head?_of_map_toLower hword (by decide)
  | whole hne hdigits =>
    obtain ⟨c, more, rfl⟩ := List.exists_cons_of_ne_nil hne
    intro d hd
    exact head?_digits hdigits d hd
  | @pointed whole places ending e hne hdigits hending =>
    cases whole with
    | nil =>
      intro c hc
      cases hc
      decide
    | cons c more =>
      have hwhole := (List.forall_mem_append.mp hdigits).1
      intro d hd
      exact head?_digits hwhole d hd

/-- **The texts that are read are those in the notation of numerals.** -/
theorem read?_eq_some_iff {t : Text} {n : Numeral} : read? t = some n ↔ Denotes t n := by
  constructor
  · intro h
    obtain ⟨sign, hsign, ht⟩ := isSign_splitSign t
    exact ⟨sign, _, _, hsign, .of_readUnsigned? h, ht⟩
  · rintro ⟨sign, negative, rest, hsign, hrest, rfl⟩
    rw [read?, splitSign_append hsign hrest.head?]
    exact hrest.readUnsigned?_eq

end Numeral

end PenPlotter
