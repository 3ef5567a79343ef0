import Mathlib.Algebra.Group.Nat.Even
import Mathlib.Data.List.Forall2
import PenPlotter.Proofs.Number.Numeral
import PenPlotter.Proofs.Text.Lines
import PenPlotter.Proofs.Text.Utf8

/-!
# The parameters of commands

A field says a number if it is the notation of a finite one, with or without blanks at its ends
(`IsNumber`).  Parameters say points by the coordinates of these in turn, with commas between them,
and blank ones say that there are none (`ArePoints`).  The readers accept just that
(`readNumber_eq_ok_iff` and `readPoints_eq_ok_iff`), so a command is made of all that its parameters
say, or is a fault that quotes it in full.

Pen commands of at most four bytes are not looked at for points.  Nothing is lost, as two numbers
and the comma between them take three bytes (`ArePoints.eq_nil_of_length_le`).
-/

namespace PenPlotter

/-! ## 1. Bytes and fields -/

namespace Text

theorem length_toBytes (t : Text) : (toBytes t).length = t.byteLength := by
  induction t with
  | nil => rfl
  | cons c rest ih =>
    rw [toBytes, List.flatMap_cons, List.length_append, String.length_utf8EncodeChar, byteLength,
      ← ih]
    rfl

theorem length_le_byteLength (t : Text) : t.length ≤ t.byteLength := by
  induction t with
  | nil => exact Nat.le_refl 0
  | cons c rest ih =>
    have hpos := c.utf8Size_pos
    rw [List.length_cons, byteLength]
    omega

/-- Texts that are written as the same bytes are the same. -/
theorem toBytes_injective : Function.Injective toBytes := by
  intro s t h
  have hread := congrArg Bytes.text? h
  rw [Bytes.text?_toBytes, Bytes.text?_toBytes] at hread
  exact Option.some.inj hread

/-- A text is cut in one way only after a number of bytes. -/
theorem append_inj_of_bytes {s t u v : Text} (h : s ++ u = t ++ v)
    (hlength : (toBytes s).length = (toBytes t).length) : s = t ∧ u = v := by
  have hbytes := congrArg toBytes h
  rw [toBytes_append, toBytes_append] at hbytes
  obtain ⟨hs, hu⟩ := List.append_inj hbytes hlength
  exact ⟨toBytes_injective hs, toBytes_injective hu⟩

theorem trim_eq_nil_iff {t : Text} : t.trim = [] ↔ ∀ c ∈ t, isBlank c = true := by
  rw [trim, dropEndWhile, List.reverse_eq_nil_iff, List.dropWhile_eq_nil_iff]
  constructor
  · intro h c hc
    rw [← List.takeWhile_append_dropWhile (p := isBlank) (l := t)] at hc
    rcases List.mem_append.mp hc with hfront | hback
    · exact List.mem_takeWhile_imp hfront
    · exact h c (List.mem_reverse.mpr hback)
  · intro h c hc
    exact h c ((List.dropWhile_sublist isBlank).mem (List.mem_reverse.mp hc))

/-- Fields with characters in them and the commas between them make up the length of a text. -/
theorem two_mul_length_splitOn_le {separator : Char} {t : Text}
    (h : ∀ field ∈ t.splitOn separator, field ≠ []) :
    2 * (t.splitOn separator).length ≤ t.length + 1 := by
  induction t using pieces_induction separator with
  | last t ht =>
    rw [List.splitOn_eq_singleton ht] at h ⊢
    have hpos := List.length_pos_of_ne_nil (h t List.mem_cons_self)
    rw [List.length_singleton]
    omega
  | piece t rest ht ih =>
    rw [List.splitOn_append_cons_self_of_not_mem ht] at h ⊢
    have hpos := List.length_pos_of_ne_nil (h t List.mem_cons_self)
    have hrest := ih fun field hfield => h field (List.mem_cons_of_mem t hfield)
    rw [List.length_cons, List.length_append, List.length_cons]
    omega

/-- The first field is what stands before the first separator. -/
theorem head?_splitOn (separator : Char) (t : Text) :
    (t.splitOn separator).head? = some (t.takeWhile (· ≠ separator)) := by
  have hkept {s : Text} (hs : separator ∉ s) : ∀ c ∈ s, decide (c ≠ separator) = true :=
    fun c hc => decide_eq_true (ne_of_mem_of_not_mem hc hs)
  induction t using pieces_induction separator with
  | last t ht => rw [List.splitOn_eq_singleton ht, List.takeWhile_eq_self_iff.mpr (hkept ht)]; rfl
  | piece t rest ht ih =>
    rw [List.splitOn_append_cons_self_of_not_mem ht,
      takeWhile_append (hkept ht) (decide_eq_false (not_not_intro rfl))]
    rfl

end Text

/-! ## 2. Numbers -/

/-- Whether a field is the notation of a finite number, but for blanks at its ends. -/
def IsNumber (field : Text) (x : Float) : Prop :=
  ∃ n, Numeral.Denotes field.trim n ∧ n.value = x ∧ x.isFinite = true

theorem Numeral.readFinite?_eq_some_iff {t : Text} {x : Float} :
    readFinite? t = some x ↔ ∃ n, Denotes t n ∧ n.value = x ∧ x.isFinite = true := by
  rw [readFinite?, Option.filter_eq_some_iff, readDouble?, Option.map_eq_some_iff]
  simp only [read?_eq_some_iff]
  constructor
  · rintro ⟨⟨n, hn, hvalue⟩, hfinite⟩
    exact ⟨n, hn, hvalue, hfinite⟩
  · rintro ⟨n, hn, hvalue, hfinite⟩
    exact ⟨⟨n, hn, hvalue⟩, hfinite⟩

theorem IsNumber.trim_ne_nil {field : Text} {x : Float} (h : IsNumber field x) :
    field.trim ≠ [] := by
  intro hblank
  obtain ⟨n, hn, -⟩ := h
  rw [hblank, ← Numeral.read?_eq_some_iff] at hn
  cases hn

theorem IsNumber.ne_nil {field : Text} {x : Float} (h : IsNumber field x) : field ≠ [] := by
  rintro rfl
  exact h.trim_ne_nil rfl

/-- **The fields that are read as numbers.** -/
theorem readNumber_eq_ok_iff {field : Text} {x : Float} :
    readNumber field = .ok x ↔ IsNumber field x := by
  rw [readNumber, IsNumber, ← Numeral.readFinite?_eq_some_iff]
  by_cases hblank : field.trim = []
  · simp only [hblank, if_true]
    exact ⟨nofun, nofun⟩
  · simp only [hblank, if_false]
    cases Numeral.readFinite? field.trim with
    | none => exact ⟨nofun, nofun⟩
    | some y => rw [Except.ok.injEq, Option.some.injEq]

theorem readNumbers_eq_ok_iff {fields : List Text} {xs : List Float} :
    readNumbers fields = .ok xs ↔ List.Forall₂ IsNumber fields xs := by
  induction fields generalizing xs with
  | nil =>
    rw [List.forall₂_nil_left_iff, readNumbers, Except.ok.injEq]
    exact eq_comm
  | cons field rest ih =>
    rw [List.forall₂_cons_left_iff, readNumbers]
    simp only [← readNumber_eq_ok_iff, ← ih]
    cases readNumber field with
    | error reason => exact ⟨nofun, nofun⟩
    | ok x =>
      cases readNumbers rest with
      | error reason => exact ⟨nofun, nofun⟩
      | ok more =>
        constructor
        · intro h
          exact ⟨x, more, rfl, rfl, (Except.ok.inj h).symm⟩
        · rintro ⟨_, _, hx, hmore, rfl⟩
          cases hx
          cases hmore
          rfl

theorem exists_forall₂_isNumber_iff {fields : List Text} :
    (∃ xs, List.Forall₂ IsNumber fields xs) ↔ ∀ field ∈ fields, ∃ x, IsNumber field x := by
  induction fields with
  | nil => exact ⟨fun _ _ h => absurd h List.not_mem_nil, fun _ => ⟨[], .nil⟩⟩
  | cons field rest ih =>
    rw [List.forall_mem_cons, ← ih]
    constructor
    · rintro ⟨_, hxs⟩
      cases hxs with
      | cons hx hmore => exact ⟨⟨_, hx⟩, ⟨_, hmore⟩⟩
    · rintro ⟨⟨x, hx⟩, ⟨xs, hxs⟩⟩
      exact ⟨x :: xs, .cons hx hxs⟩

/-! ## 3. Points -/

/-- The coordinates of points in turn. -/
def coordinates {α : Type} (points : List (Point α)) : List α :=
  points.flatMap fun q => [q.x, q.y]

theorem pairUp_eq_some_iff {α : Type} {xs : List α} {points : List (Point α)} :
    pairUp xs = some points ↔ xs = coordinates points := by
  induction xs using pairUp.induct generalizing points with
  | case1 => cases points <;> simp [pairUp, coordinates]
  | case2 x => cases points <;> simp [pairUp, coordinates]
  | case3 x y rest ih =>
    rw [pairUp, Option.map_eq_some_iff]
    simp only [ih]
    constructor
    · rintro ⟨more, rfl, rfl⟩
      rfl
    · intro h
      cases points with
      | nil => cases h
      | cons q more =>
        obtain ⟨rfl, rfl, rfl⟩ : x = q.x ∧ y = q.y ∧ rest = coordinates more := by
          simpa [coordinates] using h
        exact ⟨more, rfl, rfl⟩

/-- An even number of coordinates makes points. -/
theorem exists_eq_coordinates_iff {α : Type} {xs : List α} :
    (∃ points, xs = coordinates points) ↔ Even xs.length := by
  simp only [← pairUp_eq_some_iff]
  induction xs using pairUp.induct with
  | case1 => exact ⟨fun _ => Even.zero, fun _ => ⟨[], rfl⟩⟩
  | case2 x => exact ⟨nofun, fun h => absurd h Nat.not_even_one⟩
  | case3 x y rest ih =>
    rw [List.length_cons, List.length_cons, Nat.even_add_one, Nat.even_add_one, not_not, ← ih]
    simp only [pairUp, Option.map_eq_some_iff]
    constructor
    · rintro ⟨_, more, hmore, -⟩
      exact ⟨more, hmore⟩
    · rintro ⟨more, hmore⟩
      exact ⟨_, more, hmore, rfl⟩

/-- Whether parameters say points. -/
inductive ArePoints (p : Text) : List (Point Float) → Prop
  | blank (h : ∀ c ∈ p, Text.isBlank c = true) : ArePoints p []
  | listed {points : List (Point Float)}
      (h : List.Forall₂ IsNumber (p.splitOn ',') (coordinates points)) : ArePoints p points

/-- Where parameters say points, they are blank, or each field is a number and the number of them is
even. -/
theorem exists_arePoints_iff {p : Text} :
    (∃ points, ArePoints p points) ↔ (∀ c ∈ p, Text.isBlank c = true) ∨
      Even (p.splitOn ',').length ∧ ∀ field ∈ p.splitOn ',', ∃ x, IsNumber field x := by
  rw [← exists_forall₂_isNumber_iff]
  constructor
  · rintro ⟨points, hblank | hlisted⟩
    · exact .inl hblank
    · refine .inr ⟨?_, _, hlisted⟩
      rw [hlisted.length_eq, ← exists_eq_coordinates_iff]
      exact ⟨points, rfl⟩
  · rintro (hblank | ⟨heven, xs, hxs⟩)
    · exact ⟨[], .blank hblank⟩
    · rw [hxs.length_eq, ← exists_eq_coordinates_iff] at heven
      obtain ⟨points, rfl⟩ := heven
      exact ⟨points, .listed hxs⟩

/-- Blank parameters list no coordinates, not even none: they are one field, which is no number. -/
theorem not_forall₂_of_blank {p : Text} (h : p.trim = []) (xs : List Float) :
    ¬ List.Forall₂ IsNumber (p.splitOn ',') xs := by
  intro hlisted
  have hcomma : ',' ∉ p := fun hmem =>
    absurd (Text.trim_eq_nil_iff.mp h ',' hmem) (by decide)
  rw [List.splitOn_eq_singleton hcomma] at hlisted
  obtain ⟨x, hx⟩ := exists_forall₂_isNumber_iff.mp ⟨xs, hlisted⟩ p List.mem_cons_self
  exact hx.trim_ne_nil h

/-- **The parameters that are read as points.** -/
theorem readPoints_eq_ok_iff {p : Text} {points : List (Point Float)} :
    readPoints p = .ok points ↔ ArePoints p points := by
  rw [readPoints]
  by_cases hblank : p.trim = []
  · rw [if_pos hblank, Except.ok.injEq]
    constructor
    · rintro rfl
      exact .blank (Text.trim_eq_nil_iff.mp hblank)
    · rintro (- | hlisted)
      · rfl
      · exact absurd hlisted (not_forall₂_of_blank hblank _)
  · have hlisted : ArePoints p points ↔ readNumbers (p.splitOn ',') = .ok (coordinates points) := by
      rw [readNumbers_eq_ok_iff]
      constructor
      · rintro (hall | hlisted)
        · exact absurd (Text.trim_eq_nil_iff.mpr hall) hblank
        · exact hlisted
      · exact .listed
    rw [if_neg hblank, hlisted]
    cases readNumbers (p.splitOn ',') with
    | error reason => exact ⟨nofun, nofun⟩
    | ok numbers =>
      rw [Except.ok.injEq, ← pairUp_eq_some_iff]
      dsimp only
      cases pairUp numbers with
      | none => exact ⟨nofun, nofun⟩
      | some more => rw [Except.ok.injEq, Option.some.injEq]

/-- **Parameters of at most two characters say no points.** -/
theorem ArePoints.eq_nil_of_length_le {p : Text} {points : List (Point Float)}
    (h : ArePoints p points) (hp : p.length ≤ 2) : points = [] := by
  cases h with
  | blank => rfl
  | listed h =>
    cases points with
    | nil => rfl
    | cons q rest =>
      -- One point has two fields, neither of which is empty, and there is a comma between them.
      have hfields : ∀ field ∈ p.splitOn ',', field ≠ [] := by
        intro field hfield
        obtain ⟨x, hx⟩ := exists_forall₂_isNumber_iff.mp ⟨_, h⟩ field hfield
        exact hx.ne_nil
      have hlength : (p.splitOn ',').length = (coordinates rest).length + 2 := h.length_eq
      have hbound := Text.two_mul_length_splitOn_le hfields
      omega

/-! ## 4. Commands -/

namespace Instruction

/-- The letters of the commands that go through points with the pen as it is. -/
inductive IsPathCommand : Text → (List (Point Float) → Instruction Float) → Prop
  | absolute : IsPathCommand ['P', 'A'] .plotAbsolute
  | relative : IsPathCommand ['P', 'R'] .plotRelative

/-- The letters of the commands that move the pen and may go through points then. -/
inductive IsPenCommand : Text → (List (Point Float) → Instruction Float) → Prop
  | up : IsPenCommand ['P', 'U'] .penUp
  | down : IsPenCommand ['P', 'D'] .penDown

/-- Whether a command text is read as the command with what its parameters say, and as a fault that
quotes the text and its line if they say nothing. -/
def IsReadBy {α : Type} (line : Nat) (text : Text) (command : α → Instruction Float)
    (meaning : α → Prop) : Prop :=
  (∀ a, read line text = .ok (command a) ↔ meaning a) ∧
    ((∀ a, ¬ meaning a) → ∃ reason, read line text = .error (.unreadable line text reason))

/-- A command that is read as one with parameters is read by what these are read as. -/
theorem isReadBy_of_parse {α : Type} {line : Nat} {text : Text} {command : α → Instruction Float}
    {meaning : α → Prop} {parameters : Except Unreadable α}
    (hparse : parse text = parameters.map command) (hcommand : Function.Injective command)
    (hmeaning : ∀ a, parameters = .ok a ↔ meaning a) : IsReadBy line text command meaning := by
  unfold IsReadBy
  rw [read, hparse]
  simp only [← hmeaning]
  cases parameters with
  | error reason => exact ⟨fun a => ⟨nofun, nofun⟩, fun _ => ⟨reason, rfl⟩⟩
  | ok b =>
    have hread : (Except.map command (.ok b)).mapError (Fault.unreadable line text) =
        .ok (command b) := rfl
    refine ⟨fun a => ?_, fun hnone => absurd rfl (hnone b)⟩
    rw [hread, Except.ok.injEq, Except.ok.injEq, hcommand.eq_iff]

theorem read_of_parse {text : Text} {i : Instruction Float} (h : parse text = .ok i)
    (line : Nat) : read line text = .ok i := by
  rw [read, h]
  rfl

section Letters

variable {letters : Text} {command : List (Point Float) → Instruction Float}

theorem isReadBy_of_isPathCommand (h : IsPathCommand letters command) (line : Nat) (p : Text) :
    IsReadBy line (letters ++ p) command (ArePoints p) := by
  cases h with
  | absolute =>
    exact isReadBy_of_parse rfl (fun _ _ => plotAbsolute.inj) fun _ => readPoints_eq_ok_iff
  | relative =>
    exact isReadBy_of_parse rfl (fun _ _ => plotRelative.inj) fun _ => readPoints_eq_ok_iff

theorem isReadBy_of_isPenCommand (h : IsPenCommand letters command) (line : Nat) {p : Text}
    (hp : 2 < p.byteLength) :
    IsReadBy line (letters ++ p) command (ArePoints p) := by
  have hstroke (points : List (Point Float)) : readStroke p = .ok points ↔ ArePoints p points := by
    rw [readStroke, if_neg (Nat.not_le_of_lt hp), readPoints_eq_ok_iff]
  cases h with
  | up => exact isReadBy_of_parse rfl (fun _ _ => penUp.inj) hstroke
  | down => exact isReadBy_of_parse rfl (fun _ _ => penDown.inj) hstroke

theorem parse_of_isPenCommand (h : IsPenCommand letters command) {p : Text}
    (hp : p.byteLength ≤ 2) : parse (letters ++ p) = .ok (command []) := by
  have hstroke : readStroke p = .ok [] := if_pos hp
  cases h with
  | up => exact congrArg (Except.map penUp) hstroke
  | down => exact congrArg (Except.map penDown) hstroke

end Letters

/-- Only commands with coordinates have reasons not to be read. -/
theorem letters_of_parse_error {text : Text} {reason : Unreadable}
    (h : parse text = .error reason) :
    ∃ letters p, text = letters ++ p ∧ (Text.toBytes letters).length = 2 ∧
      ((∃ command, IsPathCommand letters command) ∨ (∃ command, IsPenCommand letters command) ∨
        letters = ['C', 'I']) := by
  unfold parse at h
  split at h
  case h_3 p => exact ⟨['P', 'U'], p, rfl, rfl, .inr (.inl ⟨_, .up⟩)⟩
  case h_4 p => exact ⟨['P', 'D'], p, rfl, rfl, .inr (.inl ⟨_, .down⟩)⟩
  case h_6 p => exact ⟨['P', 'A'], p, rfl, rfl, .inl ⟨_, .absolute⟩⟩
  case h_7 p => exact ⟨['P', 'R'], p, rfl, rfl, .inl ⟨_, .relative⟩⟩
  case h_8 p => exact ⟨['C', 'I'], p, rfl, rfl, .inr (.inr rfl)⟩
  all_goals cases h

/-- A text that is not ignored begins with two letters of one byte each. -/
theorem parse_of_no_letters {text : Text}
    (h : ∀ opcode p, text = opcode ++ p → (Text.toBytes opcode).length ≠ 2) :
    parse text = .ok .ignored := by
  unfold parse
  split
  case h_11 => rfl
  all_goals exact absurd rfl (h [_, _] _ rfl)

/-- **Commands are read by what their parameters say.**  The opcode is the first two bytes of a
text.  Parameters are points if they are blank, or are an even number of fields with a number in
each; a path command goes through these points, and so does a pen command if the text has more than
four bytes.  A shorter one goes through none, and its parameters say none.  A circle has the radius
in its first field.  Where these commands have no such parameters they are faults.  No other command
is one, and a text that cannot be cut after two bytes is ignored. -/
theorem read_by_parameters (line : Nat) (text : Text) :
    (∀ opcode p, text = opcode ++ p → (Text.toBytes opcode).length = 2 →
      ((∃ points, ArePoints p points) ↔ (∀ c ∈ p, Text.isBlank c = true) ∨
        Even (p.splitOn ',').length ∧ ∀ field ∈ p.splitOn ',', ∃ x, IsNumber field x) ∧
      (∀ command, IsPathCommand opcode command → IsReadBy line text command (ArePoints p)) ∧
      (∀ command, IsPenCommand opcode command →
        if 4 < (Text.toBytes text).length then IsReadBy line text command (ArePoints p)
        else read line text = .ok (command []) ∧ ∀ points, ArePoints p points → points = []) ∧
      (opcode = ['C', 'I'] → ∀ field, (p.splitOn ',').head? = some field →
        IsReadBy line text .circle (IsNumber field)) ∧
      ((∀ command, ¬ IsPathCommand opcode command) → (∀ command, ¬ IsPenCommand opcode command) →
        opcode ≠ ['C', 'I'] → ∃ i, read line text = .ok i)) ∧
    ((∀ opcode p, text = opcode ++ p → (Text.toBytes opcode).length ≠ 2) →
      read line text = .ok .ignored) := by
  refine ⟨?_, fun hletters => read_of_parse (parse_of_no_letters hletters) line⟩
  rintro opcode p rfl hopcode
  have hlength : (Text.toBytes (opcode ++ p)).length = 2 + p.byteLength := by
    rw [Text.toBytes_append, List.length_append, hopcode, Text.length_toBytes]
  refine ⟨exists_arePoints_iff, fun command h => isReadBy_of_isPathCommand h line p, ?_, ?_, ?_⟩
  · intro command h
    rw [hlength]
    split
    · exact isReadBy_of_isPenCommand h line (by omega)
    · have hshort : p.byteLength ≤ 2 := by omega
      exact ⟨read_of_parse (parse_of_isPenCommand h hshort) line,
        fun points hpoints => hpoints.eq_nil_of_length_le (p.length_le_byteLength.trans hshort)⟩
  · rintro rfl field hfield
    rw [Text.head?_splitOn, Option.some.injEq] at hfield
    subst hfield
    exact isReadBy_of_parse rfl (fun _ _ => circle.inj) fun _ => readNumber_eq_ok_iff
  · intro hpath hpen hcircle
    cases hparse : parse (opcode ++ p) with
    | ok i => exact ⟨i, read_of_parse hparse line⟩
    | error reason =>
      -- What the reader takes for the letters is two bytes long as well, so it is the opcode.
      obtain ⟨letters, p', htext, hletters, hcases⟩ := letters_of_parse_error hparse
      obtain ⟨rfl, -⟩ := Text.append_inj_of_bytes htext (hopcode.trans hletters.symm)
      rcases hcases with ⟨command, h⟩ | ⟨command, h⟩ | h
      · exact absurd h (hpath command)
      · exact absurd h (hpen command)
      · exact absurd h hcircle

/-- A pen command with a point and one too short for any, numbers that do not pair up, a circle with
more behind its radius, a pen selection that means nothing, and a text whose second character has
two bytes. -/
theorem read_by_parameters_of_each_kind :
    read 3 "PD1,.5".toList = .ok (.penDown [⟨(Numeral.decimal false 1 0).value,
      (Numeral.decimal false 5 (-1)).value⟩]) ∧
    read 3 "PD1,".toList = .ok (.penDown []) ∧
    (∃ reason, read 3 "PA1,2,3".toList = .error (.unreadable 3 "PA1,2,3".toList reason)) ∧
    read 3 "CI8,x".toList = .ok (.circle (Numeral.decimal false 8 0).value) ∧
    (∃ i, read 3 "SPx".toList = .ok i) ∧
    read 3 "Pé".toList = .ok .ignored := by
  have hone : IsNumber ['1'] (Numeral.decimal false 1 0).value :=
    readNumber_eq_ok_iff.mp rfl
  have hhalf : IsNumber ['.', '5'] (Numeral.decimal false 5 (-1)).value :=
    readNumber_eq_ok_iff.mp rfl
  have height : IsNumber ['8'] (Numeral.decimal false 8 0).value :=
    readNumber_eq_ok_iff.mp rfl
  have hodd : ∀ points, ¬ ArePoints "1,2,3".toList points := by
    intro points hpoints
    rcases exists_arePoints_iff.mp ⟨points, hpoints⟩ with hblank | ⟨heven, -⟩
    · exact absurd (hblank '1' (by decide)) (by decide)
    · exact absurd heven (by decide)
  refine ⟨?_, ?_, ?_, ?_, ?_, ?_⟩
  · have h := ((read_by_parameters 3 _).1 ['P', 'D'] ['1', ',', '.', '5'] rfl rfl).2.2.1 _ .down
    rw [if_pos (by decide)] at h
    exact (h.1 _).mpr (.listed (.cons hone (.cons hhalf .nil)))
  · have h := ((read_by_parameters 3 _).1 ['P', 'D'] ['1', ','] rfl rfl).2.2.1 _ .down
    rw [if_neg (by decide)] at h
    exact h.1
  · have h := ((read_by_parameters 3 _).1 ['P', 'A'] "1,2,3".toList rfl rfl).2.1 _ .absolute
    exact h.2 hodd
  · have h := ((read_by_parameters 3 _).1 ['C', 'I'] ['8', ',', 'x'] rfl rfl).2.2.2.1 rfl ['8'] rfl
    exact (h.1 _).mpr height
  · exact ((read_by_parameters 3 _).1 ['S', 'P'] ['x'] rfl rfl).2.2.2.2 nofun nofun (by decide)
  · refine (read_by_parameters 3 _).2 fun opcode p htext => ?_
    rcases opcode with _ | ⟨a, _ | ⟨b, _ | ⟨c, more⟩⟩⟩
    · decide
    · cases htext
      decide
    · cases htext
      decide
    · cases htext

end Instruction

end PenPlotter
