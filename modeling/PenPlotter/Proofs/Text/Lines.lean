import PenPlotter.Instruction.Reader

/-!
# Lines and commands of a text

A text is cut twice: into lines at line feeds and into commands at semicolons.  This module has
both cuts piece by piece (`Text.lines_piece` and `commandTexts_append`), and what follows for the
two together.  A carriage return at the end of a line is blank and changes no command, so that it
does not matter how many of them a line loses.

So the commands of the lines of a text are those of the text with semicolons for its line feeds
(`flatMap_commandTexts_lines`), and carriage returns in front of the line feeds leave each line its
commands (`map_commandTexts_lines_withReturns`).
-/

namespace PenPlotter

namespace Text

/-! ## 1. Piece by piece -/

/-- What holds of a text without separators, and of a piece that a separator ends if it holds of the
rest, holds of all texts. -/
theorem pieces_induction (separator : Char) {P : Text → Prop}
    (last : ∀ t, separator ∉ t → P t)
    (piece : ∀ t rest, separator ∉ t → P rest → P (t ++ separator :: rest)) (t : Text) : P t := by
  by_cases h : separator ∈ t
  · obtain ⟨first, rest, ht, hfirst⟩ := List.eq_append_cons_of_mem h
    have hshorter : rest.length < t.length := by
      rw [ht, List.length_append, List.length_cons]
      omega
    rw [ht]
    exact piece first rest hfirst (pieces_induction separator last piece rest)
  · exact last t h
termination_by t.length

/-- A piece between separators holds none. -/
theorem not_mem_of_mem_splitOn {separator : Char} {t piece : Text}
    (h : piece ∈ t.splitOn separator) : separator ∉ piece := by
  induction t using pieces_induction separator with
  | last t ht =>
    rw [List.splitOn_eq_singleton ht] at h
    rw [List.mem_singleton.mp h]
    exact ht
  | piece t rest ht ih =>
    rw [List.splitOn_append_cons_self_of_not_mem ht] at h
    rcases List.mem_cons.mp h with rfl | h
    · exact ht
    · exact ih h

/-- The pieces between separators have all other characters among them. -/
theorem exists_mem_splitOn_iff {separator c : Char} {t : Text} :
    (∃ piece ∈ t.splitOn separator, c ∈ piece) ↔ c ∈ t ∧ c ≠ separator := by
  induction t using pieces_induction separator with
  | last t h =>
    rw [List.splitOn_eq_singleton h]
    simp only [List.mem_singleton, exists_eq_left, iff_self_and]
    rintro hc rfl
    exact h hc
  | piece t rest h ih =>
    rw [List.splitOn_append_cons_self_of_not_mem h]
    have hpieces : (∃ piece ∈ t :: rest.splitOn separator, c ∈ piece) ↔
        c ∈ t ∨ c ∈ rest ∧ c ≠ separator := by
      simp only [← ih, List.mem_cons, or_and_right, exists_or, exists_eq_left]
    rw [hpieces, List.mem_append, List.mem_cons]
    constructor
    · rintro (hc | ⟨hc, hne⟩)
      · exact ⟨.inl hc, fun heq => h (heq ▸ hc)⟩
      · exact ⟨.inr (.inr hc), hne⟩
    · rintro ⟨hc | hc | hc, hne⟩
      · exact .inl hc
      · exact absurd hc hne
      · exact .inr ⟨hc, hne⟩

/-- There is one piece more than separators. -/
theorem length_splitOn (separator : Char) (t : Text) :
    (t.splitOn separator).length = 1 + t.count separator := by
  induction t using pieces_induction separator with
  | last t h => rw [List.splitOn_eq_singleton h, List.count_eq_zero.mpr h, List.length_singleton]
  | piece t rest h ih =>
    rw [List.splitOn_append_cons_self_of_not_mem h, List.length_cons, ih, List.count_append,
      List.count_eq_zero.mpr h, List.count_cons_self]
    omega

theorem linesOfPieces_cons (first : Text) {rest : List Text} (h : rest ≠ []) :
    linesOfPieces (first :: rest) = dropReturn first :: linesOfPieces rest := by
  cases rest with
  | nil => exact absurd rfl h
  | cons next more => rfl

/-- A text without a line feed is its own only line, unless it is empty. -/
theorem lines_of_not_mem {t : Text} (h : '\n' ∉ t) : lines t = if t = [] then [] else [t] := by
  rw [lines, List.splitOn_eq_singleton h, linesOfPieces]
  cases t <;> rfl

/-- What stands before the first line feed is the first line, without its carriage return. -/
theorem lines_piece {t : Text} (h : '\n' ∉ t) (rest : Text) :
    lines (t ++ '\n' :: rest) = dropReturn t :: lines rest := by
  rw [lines, List.splitOn_append_cons_self_of_not_mem h,
    linesOfPieces_cons t (List.splitOn_ne_nil '\n' rest)]
  rfl

theorem lines_singleton_newline {t : Text} (h : '\n' ∉ t) :
    lines (t ++ ['\n']) = [dropReturn t] :=
  lines_piece h []

/-- A line feed parts the lines before it from those behind it. -/
theorem lines_append_newline (s t : Text) :
    lines (s ++ '\n' :: t) = lines (s ++ ['\n']) ++ lines t := by
  induction s using pieces_induction '\n' with
  | last s h => rw [lines_piece h, lines_singleton_newline h, List.singleton_append]
  | piece s rest h ih =>
    rw [List.append_assoc, List.append_assoc, List.cons_append, List.cons_append, lines_piece h, ih,
      lines_piece h, List.cons_append]

/-- As many lines as line feeds are ended. -/
theorem length_lines_newline (t : Text) :
    (lines (t ++ ['\n'])).length = t.count '\n' + 1 := by
  induction t using pieces_induction '\n' with
  | last t h => rw [lines_singleton_newline h, List.count_eq_zero.mpr h, List.length_singleton]
  | piece t rest h ih =>
    rw [List.append_assoc, List.cons_append, lines_piece h, List.length_cons, ih, List.count_append,
      List.count_eq_zero.mpr h, List.count_cons_self, Nat.zero_add]

/-- The first lines of a text, with the line feeds that end them. -/
def firstLines : Nat → Text → Text
  | 0, _ => []
  | _ + 1, [] => []
  | n + 1, c :: rest => c :: firstLines (if c = '\n' then n else n + 1) rest

theorem firstLines_of_not_mem {t : Text} (h : '\n' ∉ t) (n : Nat) : firstLines (n + 1) t = t := by
  induction t with
  | nil => rfl
  | cons c rest ih =>
    rw [List.mem_cons, not_or] at h
    rw [firstLines, if_neg (Ne.symm h.1), ih h.2]

theorem firstLines_piece {t : Text} (h : '\n' ∉ t) (n : Nat) (rest : Text) :
    firstLines (n + 1) (t ++ '\n' :: rest) = t ++ '\n' :: firstLines n rest := by
  induction t with
  | nil => rfl
  | cons c more ih =>
    rw [List.mem_cons, not_or] at h
    rw [List.cons_append, firstLines, if_neg (Ne.symm h.1), ih h.2, List.cons_append]

/-- The lines of the first lines are the first ones of all lines. -/
theorem lines_firstLines (n : Nat) (t : Text) : lines (firstLines n t) = (lines t).take n := by
  induction t using pieces_induction '\n' generalizing n with
  | last t h =>
    cases n with
    | zero =>
      rw [firstLines, List.take_zero]
      rfl
    | succ n =>
      rw [firstLines_of_not_mem h, lines_of_not_mem h]
      split <;> simp
  | piece t rest h ih =>
    cases n with
    | zero =>
      rw [firstLines, List.take_zero]
      rfl
    | succ n => rw [firstLines_piece h, lines_piece h, lines_piece h, ih, List.take_succ_cons]

/-! ## 2. Blank ends -/

theorem dropEndWhile_append_of_pos {p : Char → Bool} {c : Char} (hc : p c = true) (t : Text) :
    dropEndWhile p (t ++ [c]) = dropEndWhile p t := by
  rw [dropEndWhile, dropEndWhile, List.reverse_append, List.reverse_singleton,
    List.singleton_append, List.dropWhile_cons_of_pos hc]

/-- A text whose last character stays keeps its end. -/
theorem dropEndWhile_eq_self {p : Char → Bool} {t : Text}
    (h : t.getLast?.all (!p ·) = true) : dropEndWhile p t = t := by
  rw [dropEndWhile]
  cases hreverse : t.reverse with
  | nil => rw [List.dropWhile_nil, List.reverse_nil, List.reverse_eq_nil_iff.mp hreverse]
  | cons c rest =>
    rw [← List.head?_reverse, hreverse] at h
    rw [List.dropWhile_cons_of_neg (by simpa using h), ← hreverse, List.reverse_reverse]

/-- What stands before the end of a text stays as long as its own last character does. -/
theorem dropEndWhile_append {p : Char → Bool} (front : Text)
    (h : front.getLast?.all (!p ·) = true) (t : Text) :
    dropEndWhile p (front ++ t) = front ++ dropEndWhile p t := by
  rw [dropEndWhile, List.reverse_append, List.dropWhile_append]
  split
  · rename_i hnil
    have hend : dropEndWhile p t = [] := by
      rw [dropEndWhile, List.isEmpty_iff.mp hnil, List.reverse_nil]
    rw [hend, List.append_nil]
    exact dropEndWhile_eq_self h
  · rw [List.reverse_append, List.reverse_reverse]
    rfl

/-- A blank character at the end is trimmed off. -/
theorem trim_append_blank {c : Char} (hc : isBlank c = true) (t : Text) :
    trim (t ++ [c]) = trim t := by
  rw [trim, trim, List.dropWhile_append]
  split
  · rename_i hblank
    rw [List.isEmpty_iff] at hblank
    rw [hblank, List.dropWhile_cons_of_pos hc]
    rfl
  · exact dropEndWhile_append_of_pos hc _

/-- A text ends with the carriage return that it loses, if it loses one. -/
theorem eq_dropReturn_or (t : Text) : dropReturn t = t ∨ t = dropReturn t ++ ['\r'] := by
  rw [dropReturn]
  split
  · rename_i h
    obtain ⟨front, rfl⟩ := List.getLast?_eq_some_iff.mp h
    rw [List.dropLast_concat]
    exact .inr rfl
  · exact .inl rfl

theorem dropReturn_append_return (t : Text) : dropReturn (t ++ ['\r']) = t := by
  rw [dropReturn, if_pos List.getLast?_concat, List.dropLast_concat]

end Text

open Text

/-! ## 3. Commands -/

@[simp] theorem commandTexts_nil : commandTexts [] = [] := by
  decide

/-- **A semicolon parts the commands before it from those behind it.** -/
theorem commandTexts_append (s t : Text) :
    commandTexts (s ++ ';' :: t) = commandTexts s ++ commandTexts t := by
  rw [commandTexts, List.splitOn_append_cons_self, List.map_append, List.filter_append]
  rfl

theorem commandTexts_of_not_mem {t : Text} (h : ';' ∉ t) :
    commandTexts t = if t.trim = [] then [] else [t.trim] := by
  rw [commandTexts, List.splitOn_eq_singleton h, List.map_singleton]
  split <;> simp_all

/-- A carriage return at the end of a line is no part of a command. -/
theorem commandTexts_append_return (t : Text) : commandTexts (t ++ ['\r']) = commandTexts t := by
  induction t using pieces_induction ';' with
  | last t h =>
    have hreturn : ';' ∉ t ++ ['\r'] := by simpa using h
    rw [commandTexts_of_not_mem hreturn, commandTexts_of_not_mem h, trim_append_blank (by decide)]
  | piece t rest _ ih =>
    rw [List.append_assoc, List.cons_append, commandTexts_append, ih, commandTexts_append]

theorem commandTexts_dropReturn (t : Text) : commandTexts (dropReturn t) = commandTexts t := by
  rcases eq_dropReturn_or t with h | h
  · rw [h]
  · conv => rhs; rw [h, commandTexts_append_return]

/-! ## 4. Commands of lines -/

/-- The commands of a text, line by line. -/
def programTexts (t : Text) : List Text :=
  t.lines.flatMap commandTexts

theorem programTexts_of_not_mem {t : Text} (h : '\n' ∉ t) : programTexts t = commandTexts t := by
  rw [programTexts, lines_of_not_mem h]
  split
  · rename_i hnil
    rw [hnil, commandTexts_nil, List.flatMap_nil]
  · exact List.flatMap_singleton ..

theorem programTexts_piece {t : Text} (h : '\n' ∉ t) (rest : Text) :
    programTexts (t ++ '\n' :: rest) = commandTexts t ++ programTexts rest := by
  rw [programTexts, lines_piece h, List.flatMap_cons, commandTexts_dropReturn]
  rfl

/-- A line feed at the end of a text adds no command. -/
theorem programTexts_append_newline (t : Text) : programTexts (t ++ ['\n']) = programTexts t := by
  induction t using pieces_induction '\n' with
  | last t h =>
    rw [programTexts_piece h, programTexts_of_not_mem h]
    exact List.append_nil _
  | piece t rest h ih =>
    rw [List.append_assoc, List.cons_append, programTexts_piece h, ih, programTexts_piece h]

namespace Text

/-- The text on one line: its line feeds are replaced by semicolons. -/
def onOneLine (t : Text) : Text :=
  t.map fun c => if c = '\n' then ';' else c

/-- The text with a carriage return in front of each line feed. -/
def withReturns (t : Text) : Text :=
  t.flatMap fun c => if c = '\n' then ['\r', '\n'] else [c]

theorem onOneLine_of_not_mem {t : Text} (h : '\n' ∉ t) : onOneLine t = t := by
  refine (List.map_congr_left fun c hc => ?_).trans (List.map_id t)
  refine if_neg ?_
  rintro rfl
  exact h hc

theorem withReturns_of_not_mem {t : Text} (h : '\n' ∉ t) : withReturns t = t := by
  induction t with
  | nil => rfl
  | cons c rest ih =>
    rw [List.mem_cons, not_or] at h
    rw [withReturns, List.flatMap_cons, if_neg (Ne.symm h.1)]
    exact congrArg (c :: ·) (ih h.2)

theorem newline_not_mem_onOneLine (t : Text) : '\n' ∉ onOneLine t := by
  intro h
  obtain ⟨c, -, hc⟩ := List.mem_map.mp h
  split at hc
  · exact absurd hc (by decide)
  · rename_i hne
    exact hne hc

end Text

/-- **The commands of the lines of a text are those of the text on one line.** -/
theorem programTexts_onOneLine (t : Text) : programTexts t.onOneLine = programTexts t := by
  rw [programTexts_of_not_mem (newline_not_mem_onOneLine t)]
  induction t using pieces_induction '\n' with
  | last t h => rw [onOneLine_of_not_mem h, programTexts_of_not_mem h]
  | piece t rest h ih =>
    have hpiece : onOneLine (t ++ '\n' :: rest) = t ++ ';' :: onOneLine rest := by
      rw [onOneLine, List.map_append, List.map_cons]
      exact congrArg (· ++ ';' :: onOneLine rest) (onOneLine_of_not_mem h)
    rw [hpiece, commandTexts_append, ih, programTexts_piece h]

/-- **Carriage returns in front of line feeds leave each line its commands.** -/
theorem map_commandTexts_lines_withReturns (t : Text) :
    t.withReturns.lines.map commandTexts = t.lines.map commandTexts := by
  induction t using pieces_induction '\n' with
  | last t h => rw [withReturns_of_not_mem h]
  | piece t rest h ih =>
    have hpiece : withReturns (t ++ '\n' :: rest) = (t ++ ['\r']) ++ '\n' :: withReturns rest := by
      rw [withReturns, List.flatMap_append, List.flatMap_cons, List.append_assoc]
      exact congrArg (· ++ '\r' :: '\n' :: withReturns rest) (withReturns_of_not_mem h)
    have hreturn : '\n' ∉ t ++ ['\r'] := by simpa using h
    rw [hpiece, lines_piece hreturn, lines_piece h, List.map_cons, List.map_cons, ih,
      dropReturn_append_return, commandTexts_dropReturn]

end PenPlotter
