import Mathlib.Algebra.Ring.Nat
import PenPlotter.Proofs.Dialect.Roland
import PenPlotter.Proofs.Text.Lines

/-!
# Writing commands in any dialect

Which parameters there are depends on the kind of a command.  A dialect serves a command if it has
a template for it that asks for nothing else, and a template language that keeps its promise writes
just the commands that are served (`TemplateEngine.write_eq_ok_iff`).

Commands are written all or not at all: either each of them is served, and the lines of one follow
on those of the other, or the fault is that of the first command that is not
(`TemplateEngine.post_of_templates`).  The words of the template language itself count as served in
every command: `{{true}}` asks for no parameter (`TemplateEngine.post_of_own_words`).
-/

namespace PenPlotter

/-- Whether a dialect has a template for a command that suits its parameters. -/
def Dialect.Serves (d : Dialect) (c : Command) : Prop :=
  ∃ t, d.find? c.kind = some t ∧ t.Suits c.named

instance (d : Dialect) (c : Command) : Decidable (d.Serves c) :=
  decidable_of_iff ((d.find? c.kind).any fun t => decide (t.Suits c.named)) (by
    simp only [Option.any_eq_true, decide_eq_true_eq, Dialect.Serves])

namespace TemplateEngine

variable {e : TemplateEngine} {templates : e.Templates} {d : Dialect} {c : Command}
  {fault : TemplateFault}

/-! ## 1. One command -/

/-- What a command is written as; of one that cannot be written, nothing. -/
def rendering (e : TemplateEngine) (templates : e.Templates) (c : Command) : Text :=
  (e.write templates c).toOption.getD []

theorem rendering_of_write {u : Text} (h : e.write templates c = .ok u) :
    e.rendering templates c = u := by
  rw [rendering, h]
  rfl

/-- **A command is written if it is served**, with its parameters in the places of their names. -/
theorem write_of_serves (h : e.Lawful) (hd : e.Holds templates d) (hserves : d.Serves c) :
    e.write templates c = .ok (e.rendering templates c) ∧
      ∀ t, d.find? c.kind = some t → t.IsPlain →
        e.rendering templates c = t.filled c.named := by
  obtain ⟨t, hfind, hsuits⟩ := hserves
  obtain ⟨u, hu, hplain⟩ := h.writes hd c.kind c.named t c.nodup_named hfind hsuits
  have hwrite : e.write templates c = .ok u := hu
  rw [rendering_of_write hwrite]
  refine ⟨hwrite, fun t' hfind' => ?_⟩
  obtain rfl := Option.some.inj (hfind.symm.trans hfind')
  exact hplain

theorem exists_write_error (h : e.Lawful) (hd : e.Holds templates d) (hserves : ¬ d.Serves c) :
    ∃ fault, e.write templates c = .error fault := by
  cases hfind : d.find? c.kind with
  | none => exact h.misses hd c.kind c.named hfind
  | some t =>
    exact h.refuses hd c.kind c.named t c.nodup_named hfind fun hsuits =>
      hserves ⟨t, hfind, hsuits⟩

theorem write_eq_ok_iff (h : e.Lawful) (hd : e.Holds templates d) {u : Text} :
    e.write templates c = .ok u ↔ d.Serves c ∧ u = e.rendering templates c := by
  constructor
  · intro hwrite
    refine ⟨Decidable.not_not.mp fun hserves => ?_, (rendering_of_write hwrite).symm⟩
    obtain ⟨fault, hfault⟩ := exists_write_error h hd hserves
    rw [hwrite] at hfault
    cases hfault
  · rintro ⟨hserves, rfl⟩
    exact (write_of_serves h hd hserves).1

/-! ## 2. Commands in a row -/

theorem post_cons_ok {u : Text} (h : e.write templates c = .ok u) (rest : List Command) :
    e.post templates (c :: rest) = (e.post templates rest).map (u.splitOn '\n' ++ ·) := by
  rw [post, h]

theorem post_cons_error (h : e.write templates c = .error fault) (rest : List Command) :
    e.post templates (c :: rest) = .error fault := by
  rw [post, h]

/-- **Commands are written one after the other**, up to the first fault. -/
theorem post_append (e : TemplateEngine) (templates : e.Templates) (first second : List Command) :
    e.post templates (first ++ second) =
      (e.post templates first).bind fun lines => (e.post templates second).map (lines ++ ·) := by
  induction first with
  | nil =>
    rw [List.nil_append, post]
    cases e.post templates second <;> rfl
  | cons c rest ih =>
    rw [List.cons_append]
    cases hwrite : e.write templates c with
    | error fault => rw [post_cons_error hwrite, post_cons_error hwrite, Except.bind]
    | ok u =>
      rw [post_cons_ok hwrite, post_cons_ok hwrite, ih]
      cases e.post templates rest with
      | error fault => rfl
      | ok lines =>
        cases e.post templates second with
        | error fault => rfl
        | ok more => exact congrArg Except.ok (List.append_assoc ..).symm

/-- **Commands are all written if each of them is served.** -/
theorem post_eq_ok_iff (h : e.Lawful) (hd : e.Holds templates d) {commands : List Command}
    {lines : List Text} :
    e.post templates commands = .ok lines ↔
      (∀ c ∈ commands, d.Serves c) ∧
        lines = commands.flatMap fun c => (e.rendering templates c).splitOn '\n' := by
  induction commands generalizing lines with
  | nil => simp [post, eq_comm]
  | cons c rest ih =>
    rw [List.forall_mem_cons, List.flatMap_cons]
    cases hwrite : e.write templates c with
    | error fault =>
      have hserves : ¬ d.Serves c := by
        intro hserves
        rw [(write_of_serves h hd hserves).1] at hwrite
        cases hwrite
      rw [post_cons_error hwrite]
      exact iff_of_false (fun h => by cases h) fun h => hserves h.1.1
    | ok u =>
      obtain ⟨hserves, rfl⟩ := (write_eq_ok_iff h hd).mp hwrite
      rw [post_cons_ok hwrite]
      cases hrest : e.post templates rest with
      | error fault =>
        have hnot : ¬ ∀ b ∈ rest, d.Serves b := by
          intro hall
          rw [ih.mpr ⟨hall, rfl⟩] at hrest
          cases hrest
        exact iff_of_false (fun h => by cases h) fun h => hnot h.1.2
      | ok more =>
        obtain ⟨hall, rfl⟩ := ih.mp hrest
        constructor
        · rintro ⟨⟩
          exact ⟨⟨hserves, hall⟩, rfl⟩
        · rintro ⟨-, rfl⟩
          rfl

/-- **The fault of commands is that of the first one that is not served.** -/
theorem post_eq_error_iff (h : e.Lawful) (hd : e.Holds templates d) {commands : List Command} :
    e.post templates commands = .error fault ↔ ∃ before c after, commands = before ++ c :: after ∧
      (∀ b ∈ before, d.Serves b) ∧ ¬ d.Serves c ∧ e.write templates c = .error fault := by
  constructor
  · intro hpost
    induction commands with
    | nil => cases hpost
    | cons c rest ih =>
      cases hwrite : e.write templates c with
      | error fault' =>
        rw [post_cons_error hwrite] at hpost
        cases hpost
        refine ⟨[], c, rest, rfl, List.forall_mem_nil _, fun hserves => ?_, hwrite⟩
        rw [(write_of_serves h hd hserves).1] at hwrite
        cases hwrite
      | ok u =>
        rw [post_cons_ok hwrite] at hpost
        cases hrest : e.post templates rest with
        | ok lines => rw [hrest] at hpost; cases hpost
        | error fault' =>
          rw [hrest] at hpost
          cases hpost
          obtain ⟨before, c', after, rfl, hbefore, hfault⟩ := ih hrest
          exact ⟨c :: before, c', after, rfl,
            List.forall_mem_cons.mpr ⟨((write_eq_ok_iff h hd).mp hwrite).1, hbefore⟩, hfault⟩
  · rintro ⟨before, c, after, rfl, hbefore, -, hfault⟩
    rw [post_append, (post_eq_ok_iff h hd).mpr ⟨hbefore, rfl⟩, post_cons_error hfault]
    rfl

/-! ## 3. All commands or none -/

/-- **Commands are written exactly, and all or none.**  In a template language that keeps its
promise and has taken in the templates of a dialect, commands are written if each of them has a
template that asks for nothing but parameters of the command, or for words of the language itself.
Otherwise the fault is that of the first command that has none.  A command is written as its
template with the values of its parameters, and becomes one line more than there are line feeds in
that text; these lines joined by line feeds are the text again.  The lines of more commands follow.
-/
theorem post_of_templates (e : TemplateEngine) (h : e.Lawful) (d : Dialect)
    (templates : e.Templates) (hd : e.Holds templates d) (commands : List Command) :
    ((∃ lines, e.post templates commands = .ok lines) ↔ ∀ c ∈ commands, d.Serves c) ∧
      (∀ fault, e.post templates commands = .error fault ↔
        ∃ before c after, commands = before ++ c :: after ∧ (∀ b ∈ before, d.Serves b) ∧
          ¬ d.Serves c ∧ e.write templates c = .error fault) ∧
      (∀ lines, e.post templates commands = .ok lines →
        lines = (commands.flatMap fun c => (e.rendering templates c).splitOn '\n') ∧
          lines.length =
            (commands.map fun c => 1 + (e.rendering templates c).count '\n').sum ∧
          ∀ c ∈ commands,
            ['\n'].intercalate ((e.rendering templates c).splitOn '\n') =
                e.rendering templates c ∧
              e.write templates c = .ok (e.rendering templates c) ∧
              ∀ t, d.find? c.kind = some t → t.IsPlain →
                e.rendering templates c = t.filled c.named) ∧
      ∀ more, e.post templates (commands ++ more) =
        (e.post templates commands).bind fun lines =>
          (e.post templates more).map (lines ++ ·) := by
  refine ⟨?_, fun fault => post_eq_error_iff h hd, ?_, post_append e templates commands⟩
  · simp only [post_eq_ok_iff h hd, exists_and_left, exists_eq, and_true]
  · intro lines hpost
    obtain ⟨hserves, hlines⟩ := (post_eq_ok_iff h hd).mp hpost
    refine ⟨hlines, ?_, fun c hc => ⟨List.intercalate_splitOn '\n',
      write_of_serves h hd (hserves c hc)⟩⟩
    rw [hlines, List.length_flatMap]
    simp only [Text.length_splitOn]

/-- Templates in which moves are written on two lines and lines are drawn only as displacements: the
plain language takes them in and writes a move, and a line to a position is the fault. -/
theorem post_of_templates_without_draw :
    let d : Dialect := [("move".toList, [.char 'X']),
      ("relative_draw".toList, [.char '+', .placeholder "x".toList, .placeholder "y".toList]),
      ("move".toList, [.char 'G', .char '\n', .placeholder "x".toList, .char '\n'])]
    ∃ templates, plain.add d.sources = .ok templates ∧
      plain.post templates [.move ⟨4, -7⟩, .relativeDraw ⟨0, 12⟩] =
        .ok ["G".toList, "4".toList, [], "+012".toList] ∧
      plain.post templates [.move ⟨4, -7⟩, .draw ⟨0, 12⟩, .reset] =
        .error (.missing "draw".toList) := by
  intro d
  have hwritten : d.IsWritten := by decide
  have hplain : ∀ entry ∈ d, entry.2.IsPlain := by decide
  obtain ⟨templates, hadd⟩ := plain_lawful.takes d hwritten hplain
  have hpost := post_of_templates plain plain_lawful d templates ⟨hwritten, hadd⟩
  refine ⟨templates, hadd, ?_, ?_⟩
  · obtain ⟨lines, hlines⟩ := (hpost [.move ⟨4, -7⟩, .relativeDraw ⟨0, 12⟩]).1.mpr (by decide)
    obtain ⟨hall, -, hfilled⟩ := (hpost _).2.2.1 lines hlines
    have hmove := (hfilled (.move ⟨4, -7⟩) (by decide)).2.2 _ rfl (by decide)
    have hdraw := (hfilled (.relativeDraw ⟨0, 12⟩) (by decide)).2.2 _ rfl (by decide)
    rw [hlines, hall, List.flatMap_cons, List.flatMap_cons, List.flatMap_nil, hmove, hdraw]
    exact congrArg Except.ok (by decide)
  · refine ((hpost _).2.1 _).mpr
      ⟨[.move ⟨4, -7⟩], .draw ⟨0, 12⟩, [.reset], rfl, by decide, by decide, ?_⟩
    have hreading := (Plain.readAll_sources_iff hwritten).mp hadd
    change Plain.render templates _ _ = _
    simp only [Plain.render, hreading.lookup_reverse]
    rfl

/-- A reset has no parameters.  Still it is written where its template asks for a word of the
language itself: a truth value, or the name of the whole context. -/
theorem post_of_own_words :
    let d : Dialect := [("reset".toList, [.placeholder "true".toList])]
    let d' : Dialect := [("reset".toList, [.placeholder "__tera_context".toList])]
    (d.IsWritten ∧ d'.IsWritten) ∧
      (¬ ∀ name ∈ ["true".toList, "__tera_context".toList],
        name ∈ Command.reset.named.map Prod.fst) ∧
      (plain.add d.sources).bind (plain.post · [.reset]) = .ok ["true".toList] ∧
      (plain.add d'.sources).bind (plain.post · [.reset]) = .ok ["\x7b\x7d".toList] := by
  intro d d'
  have hwritten : d.IsWritten ∧ d'.IsWritten := by decide
  have hadd : plain.add d.sources = .ok [("reset".toList, "true".toList.map .char)] :=
    (Plain.readAll_sources_iff hwritten.1).mpr (.cons ⟨rfl, rfl⟩ .nil)
  have hadd' : plain.add d'.sources = .ok [("reset".toList, [.everything])] :=
    (Plain.readAll_sources_iff hwritten.2).mpr (.cons ⟨rfl, rfl⟩ .nil)
  refine ⟨hwritten, by decide, ?_, ?_⟩
  · rw [hadd]
    rfl
  · rw [hadd']
    rfl

end TemplateEngine

end PenPlotter
