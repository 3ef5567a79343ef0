import Mathlib.Data.List.Forall2
import PenPlotter.Proofs.Dialect.Engine
import PenPlotter.Template.Plain

/-!
# The plain template language keeps the promise

A template that is written out is read piece by piece again: a character as itself, and a name in
double braces as what the name stands for (`Plain.read?_source`).  So the tokens that are read have
values exactly where the template has names with values, and the two are written alike
(`Plain.renderTokens?_of_suits`).  All templates of a dialect are read one after the other, and the
later one of a name counts on both sides.
-/

namespace PenPlotter

namespace Plain

variable {name : Text} {t : Template} {tokens : List Token} {context : List (Text × Int)}

/-! ## 1. Reading what is written out -/

/-- The tokens that a piece is read as. -/
def ofPiece? : Piece → Option (List Token)
  | .char c => some [.char c]
  | .placeholder name => ofName? name

/-- The tokens that a template is read as. -/
def ofPieces? : Template → Option (List Token)
  | [] => some []
  | piece :: rest =>
    match ofPiece? piece, ofPieces? rest with
    | some tokens, some more => some (tokens ++ more)
    | _, _ => none

theorem read?_char_cons {c : Char} {t : Text} (h : c = '\x7b' → t.head? ≠ some '\x7b') :
    read? (c :: t) = (read? t).map (.char c :: ·) := by
  rw [read?]
  rintro t' hc rfl
  exact h hc rfl

/-- Where double braces open and a name is read in them, it is read before the rest. -/
theorem read?_name {t after : Text} (h : readName? t = some (name, after)) :
    read? ('\x7b' :: '\x7b' :: t) =
      (ofName? name).bind fun tokens => (read? after).map (tokens ++ ·) := by
  rw [read?]
  split <;> rename_i heq <;> cases h.symm.trans heq
  cases ofName? name <;> cases read? after <;> rfl

theorem not_isBlank_of_isNameStart {c : Char} (h : isNameStart c = true) : isBlank c = false := by
  refine Bool.eq_false_iff.mpr fun hblank => ?_
  simp only [isBlank, Bool.or_eq_true, beq_iff_eq] at hblank
  rcases hblank with ((rfl | rfl) | rfl) | rfl <;> exact absurd h (by decide)

/-- A name is read up to the braces that close it. -/
theorem readName?_of_name (hname : Template.isName name = true) (t : Text) :
    readName? (name ++ '\x7d' :: '\x7d' :: t) = some (name, t) := by
  obtain ⟨c, more, rfl⟩ : ∃ c more, name = c :: more := by
    cases name with
    | nil => cases hname
    | cons c more => exact ⟨c, more, rfl⟩
  obtain ⟨hstart, hmore⟩ := Bool.and_eq_true_iff.mp hname
  have hinner : (c :: more ++ '\x7d' :: '\x7d' :: t).dropWhile isBlank =
      c :: more ++ '\x7d' :: '\x7d' :: t :=
    List.dropWhile_cons_of_neg (by simp [not_isBlank_of_isNameStart hstart])
  have hrest : ∀ b ∈ c :: more, isNameRest b = true := by
    refine List.forall_mem_cons.mpr ⟨?_, List.all_eq_true.mp hmore⟩
    rw [isNameRest, Char.isAlphanum, Bool.or_right_comm, hstart, Bool.true_or]
  have htake : (c :: more ++ '\x7d' :: '\x7d' :: t).takeWhile isNameRest = c :: more := by
    rw [List.takeWhile_append_of_pos hrest, List.takeWhile_cons_of_neg (by decide), List.append_nil]
  have hdrop : (c :: more ++ '\x7d' :: '\x7d' :: t).dropWhile isNameRest =
      '\x7d' :: '\x7d' :: t := by
    rw [List.dropWhile_append_of_pos hrest, List.dropWhile_cons_of_neg (by decide)]
  have hisName : isName (c :: more) ('\x7d' :: '\x7d' :: t) = true := by
    have hblank : isBlank '\x7d' = false := rfl
    rw [isName, List.head?_cons, Option.any_some, show isNameStart c = true from hstart,
      List.head?_cons, Option.any_some, hblank, Bool.and_false]
    rfl
  simp only [readName?, hinner, htake, hdrop,
    List.dropWhile_cons_of_neg (show ¬ isBlank '\x7d' = true by decide), hisName, if_true]

/-- **What is written out is read again**, piece by piece. -/
theorem read?_source (h : t.isWritten = true) : read? t.source = ofPieces? t := by
  induction t with
  | nil =>
    rw [Template.source, List.flatMap_nil, read?]
    rfl
  | cons piece rest ih =>
    rw [Template.source, List.flatMap_cons, ← Template.source]
    cases piece with
    | char c =>
      rw [Template.isWritten, Bool.and_eq_true, Bool.not_eq_true', Bool.and_eq_false_iff] at h
      have hnext : c = '\x7b' → (Template.source rest).head? ≠ some '\x7b' := by
        rintro rfl hhead
        rcases h.1 with hc | hopens
        · cases hc
        · rw [Template.opens, hhead] at hopens
          cases hopens
      rw [Piece.source, List.singleton_append, read?_char_cons hnext, ih h.2, ofPieces?, ofPiece?]
      cases ofPieces? rest <;> rfl
    | placeholder name =>
      rw [Template.isWritten, Bool.and_eq_true] at h
      have hread : readName? (name ++ ['\x7d', '\x7d'] ++ Template.source rest) =
          some (name, Template.source rest) := by
        rw [List.append_assoc]
        exact readName?_of_name h.1 _
      rw [Piece.source, List.cons_append, List.cons_append, read?_name hread, ih h.2, ofPieces?,
        ofPiece?]
      cases ofName? name <;> cases ofPieces? rest <;> rfl

/-! ## 2. Writing what has been read -/

theorem renderTokens?_append (first second : List Token) :
    renderTokens? context (first ++ second) =
      (renderTokens? context first).bind fun u => (renderTokens? context second).map (u ++ ·) := by
  simp only [renderTokens?, List.mapM_append, Option.bind_eq_bind, Option.pure_def]
  cases first.mapM (renderToken? context) with
  | none => rfl
  | some texts =>
    cases second.mapM (renderToken? context) with
    | none => rfl
    | some more => exact congrArg some List.flatten_append

theorem renderTokens?_chars (u : Text) : renderTokens? context (u.map .char) = some u := by
  induction u with
  | nil => rfl
  | cons c rest ih =>
    rw [List.map_cons, ← List.singleton_append, renderTokens?_append, ih]
    rfl

/-- The word for a truth value that a name begins with is a word of the language. -/
theorem mem_ownWords_of_find? {entry : Text × Text}
    (h : (truthWords.find? fun (word, _) => word.isPrefixOf name) = some entry) :
    entry.1 ∈ ownWords ∧ entry.1 <+: name := by
  have hwords : ∀ entry ∈ truthWords, entry.1 ∈ ownWords := by decide
  have hbegins : entry.1.isPrefixOf name = true := by simpa using List.find?_some h
  exact ⟨hwords entry (List.mem_of_find?_eq_some h), List.isPrefixOf_iff_prefix.mp hbegins⟩

/-- A name that no word for a truth value begins is not one of these words. -/
theorem eq_everythingName_of_mem (h : name ∈ ownWords)
    (hnone : (truthWords.find? fun (word, _) => word.isPrefixOf name) = none) :
    name = everythingName := by
  have hwords : ∀ word ∈ ownWords, word = everythingName ∨ word ∈ truthWords.map Prod.fst := by
    decide
  refine (hwords name h).resolve_right fun htruth => ?_
  obtain ⟨entry, hentry, rfl⟩ := List.mem_map.mp htruth
  have := List.find?_eq_none.mp hnone entry hentry
  exact this (List.isPrefixOf_iff_prefix.mpr (List.prefix_refl _))

/-- A word of the language is always written, and any other name as its value. -/
theorem renderTokens?_ofName? (context : List (Text × Int))
    (h : ofName? name = some tokens) :
    name ∈ ownWords ∧ (renderTokens? context tokens).isSome = true ∨
      name ∉ ownWords ∧
        renderTokens? context tokens = (context.lookup name).map Text.ofInt := by
  rw [ofName?] at h
  cases hfind : truthWords.find? fun (word, _) => word.isPrefixOf name with
  | some entry =>
    rw [hfind] at h
    simp only [Option.ite_none_right_eq_some, Option.some.injEq] at h
    obtain ⟨rfl, rfl⟩ := h
    exact .inl ⟨(mem_ownWords_of_find? hfind).1, by rw [renderTokens?_chars]; rfl⟩
  | none =>
    rw [hfind] at h
    obtain rfl := Option.some.inj h
    by_cases hname : name = everythingName
    · refine .inl ⟨?_, ?_⟩
      · rw [hname]
        decide
      · rw [if_pos hname]
        rfl
    · refine .inr ⟨fun hmem => hname (eq_everythingName_of_mem hmem hfind), ?_⟩
      rw [if_neg hname]
      simp only [renderTokens?, List.mapM_cons, List.mapM_nil, renderToken?]
      cases context.lookup name <;> simp

theorem isSome_lookup_iff : (context.lookup name).isSome = true ↔ name ∈ context.map Prod.fst := by
  rw [← not_iff_not, Bool.not_eq_true, Option.isSome_eq_false_iff, Option.isNone_iff_eq_none,
    List.lookup_eq_none_iff]
  simp only [bne_iff_ne, List.mem_map, not_exists, not_and]
  exact forall₂_congr fun _ _ => ne_comm

/-- What a piece has been read as is written unless it is a name without a value. -/
theorem renderTokens?_ofPiece? (context : List (Text × Int)) {piece : Piece}
    (h : ofPiece? piece = some tokens) :
    (Template.Suits [piece] context → ∃ u, renderTokens? context tokens = some u ∧
      (Template.IsPlain [piece] → u = Template.filledPiece context piece)) ∧
    (¬ Template.Suits [piece] context → renderTokens? context tokens = none) := by
  cases piece with
  | char c =>
    obtain rfl := Option.some.inj h
    exact ⟨fun _ => ⟨[c], rfl, fun _ => rfl⟩, fun hsuits => absurd (List.forall_mem_nil _) hsuits⟩
  | placeholder name =>
    have hsuits : Template.Suits [.placeholder name] context ↔
        name ∈ ownWords ∨ name ∈ context.map Prod.fst := List.forall_mem_singleton
    have hplain : Template.IsPlain [.placeholder name] → name ∉ ownWords := fun hplain hmem =>
      hplain name (List.mem_singleton_self name) name hmem (List.prefix_refl name)
    rw [hsuits]
    obtain ⟨hown, hsome⟩ | ⟨hown, hlookup⟩ := renderTokens?_ofName? context h
    · obtain ⟨u, hu⟩ := Option.isSome_iff_exists.mp hsome
      exact ⟨fun _ => ⟨u, hu, fun h => absurd hown (hplain h)⟩, fun hnot => absurd (.inl hown) hnot⟩
    · rw [hlookup, ← isSome_lookup_iff, or_iff_right hown, Template.filledPiece]
      cases context.lookup name with
      | none => exact ⟨fun h => (nomatch h), fun _ => rfl⟩
      | some value => exact ⟨fun _ => ⟨_, rfl, fun _ => rfl⟩, fun h => absurd rfl h⟩

theorem suits_cons {piece : Piece} {rest : Template} :
    Template.Suits (piece :: rest) context ↔
      Template.Suits [piece] context ∧ Template.Suits rest context := by
  cases piece <;> simp [Template.Suits, Template.names]

theorem isPlain_cons {piece : Piece} {rest : Template} :
    Template.IsPlain (piece :: rest) ↔ Template.IsPlain [piece] ∧ Template.IsPlain rest := by
  cases piece <;> simp [Template.IsPlain, Template.names]

theorem ofPieces?_cons_eq_some {piece : Piece} {rest : Template}
    (h : ofPieces? (piece :: rest) = some tokens) :
    ∃ first more, ofPiece? piece = some first ∧ ofPieces? rest = some more ∧
      tokens = first ++ more := by
  rw [ofPieces?] at h
  split at h
  · rename_i first more hfirst hmore
    exact ⟨first, more, hfirst, hmore, (Option.some.inj h).symm⟩
  · cases h

/-- **A template that has been read is written if there are values for its names.** -/
theorem renderTokens?_ofPieces? (h : ofPieces? t = some tokens) :
    (t.Suits context → ∃ u, renderTokens? context tokens = some u ∧
      (t.IsPlain → u = t.filled context)) ∧
    (¬ t.Suits context → renderTokens? context tokens = none) := by
  induction t generalizing tokens with
  | nil =>
    obtain rfl := Option.some.inj h
    exact ⟨fun _ => ⟨[], rfl, fun _ => rfl⟩, fun hsuits => absurd (List.forall_mem_nil _) hsuits⟩
  | cons piece rest ih =>
    obtain ⟨first, more, hfirst, hmore, rfl⟩ := ofPieces?_cons_eq_some h
    obtain ⟨hpiece, hnoPiece⟩ := renderTokens?_ofPiece? context hfirst
    obtain ⟨hrest, hnoRest⟩ := ih hmore
    rw [renderTokens?_append, suits_cons, isPlain_cons]
    constructor
    · rintro ⟨hsuits, hsuits'⟩
      obtain ⟨u, hu, hplain⟩ := hpiece hsuits
      obtain ⟨v, hv, hplain'⟩ := hrest hsuits'
      rw [hu, hv]
      refine ⟨u ++ v, rfl, fun h => ?_⟩
      rw [hplain h.1, hplain' h.2, Template.filled, Template.filled, List.flatMap_cons]
    · intro hsuits
      by_cases hsuits' : Template.Suits [piece] context
      · rw [hnoRest fun h => hsuits ⟨hsuits', h⟩]
        cases renderTokens? context first <;> rfl
      · rw [hnoPiece hsuits']
        rfl

/-- A name that no word of the language begins stands for its value. -/
theorem ofName?_of_plain (h : ∀ word ∈ ownWords, ¬ word <+: name) :
    ofName? name = some [.variable name] := by
  have hnone : (truthWords.find? fun (word, _) => word.isPrefixOf name) = none := by
    refine Option.eq_none_iff_forall_ne_some.mpr fun entry hentry => ?_
    obtain ⟨hmem, hbegins⟩ := mem_ownWords_of_find? hentry
    exact h _ hmem hbegins
  have hname : name ≠ everythingName := by
    rintro rfl
    exact h _ (by decide) (List.prefix_refl _)
  rw [ofName?, hnone]
  exact congrArg some (congrArg ([·]) (if_neg hname))

/-- A template is read if no word of the language begins a name in it. -/
theorem exists_ofPieces? (h : t.IsPlain) : ∃ tokens, ofPieces? t = some tokens := by
  induction t with
  | nil => exact ⟨[], rfl⟩
  | cons piece rest ih =>
    obtain ⟨hpiece, hrest⟩ := isPlain_cons.mp h
    obtain ⟨more, hmore⟩ := ih hrest
    have hfirst : ∃ first, ofPiece? piece = some first := by
      cases piece with
      | char c => exact ⟨[.char c], rfl⟩
      | placeholder name => exact ⟨_, ofName?_of_plain (hpiece name (List.mem_singleton_self name))⟩
    obtain ⟨first, hfirst⟩ := hfirst
    exact ⟨first ++ more, by rw [ofPieces?, hfirst, hmore]⟩

/-! ## 3. Dialects -/

/-- Whether templates are what the templates of a dialect are read as. -/
def IsReading (d : Dialect) (templates : List (Text × List Token)) : Prop :=
  List.Forall₂ (fun entry read => entry.1 = read.1 ∧ ofPieces? entry.2 = some read.2) d templates

theorem readAll_sources_iff {d : Dialect} (hd : d.IsWritten)
    {templates : List (Text × List Token)} :
    readAll d.sources = .ok templates ↔ IsReading d templates := by
  induction d generalizing templates with
  | nil =>
    rw [IsReading, List.forall₂_nil_left_iff]
    exact ⟨fun h => (Except.ok.inj h).symm, fun h => congrArg Except.ok h.symm⟩
  | cons entry rest ih =>
    obtain ⟨name, t⟩ := entry
    obtain ⟨hwritten, hrest⟩ := List.forall_mem_cons.mp hd
    rw [IsReading, List.forall₂_cons_left_iff, Dialect.sources, List.map_cons, ← Dialect.sources,
      readAll, read?_source hwritten]
    cases htokens : ofPieces? t with
    | none => exact iff_of_false (fun h => nomatch h) fun ⟨_, _, ⟨_, h⟩, _⟩ => nomatch h
    | some tokens =>
      constructor
      · intro h
        cases hmore : readAll (Dialect.sources rest) with
        | error fault => rw [hmore] at h; cases h
        | ok more =>
          rw [hmore] at h
          exact ⟨_, more, ⟨rfl, rfl⟩, (ih hrest).mp hmore, (Except.ok.inj h).symm⟩
      · rintro ⟨⟨name', tokens'⟩, more, ⟨rfl, hsame⟩, hmore, rfl⟩
        obtain rfl := Option.some.inj hsame
        rw [(ih hrest).mpr hmore]
        rfl

theorem exists_isReading {d : Dialect} (h : ∀ entry ∈ d, entry.2.IsPlain) :
    ∃ templates, IsReading d templates := by
  induction d with
  | nil => exact ⟨[], .nil⟩
  | cons entry rest ih =>
    obtain ⟨hentry, hrest⟩ := List.forall_mem_cons.mp h
    obtain ⟨tokens, htokens⟩ := exists_ofPieces? hentry
    obtain ⟨templates, hmore⟩ := ih hrest
    exact ⟨(entry.1, tokens) :: templates, .cons ⟨rfl, htokens⟩ hmore⟩

/-- A name has a template among those read if it has one in the dialect, and they agree. -/
theorem IsReading.lookup_eq {d : Dialect} {templates : List (Text × List Token)}
    (h : IsReading d templates) : templates.lookup name = (d.lookup name).bind ofPieces? := by
  induction h with
  | nil => rfl
  | @cons entry read rest more hentry hmore ih =>
    obtain ⟨name', t⟩ := entry
    obtain ⟨_, tokens⟩ := read
    obtain ⟨rfl, htokens⟩ := hentry
    rw [List.lookup_cons, List.lookup_cons, ih]
    cases name == name' with
    | true => exact htokens.symm
    | false => rfl

theorem IsReading.lookup_reverse {d : Dialect} {templates : List (Text × List Token)}
    (h : IsReading d templates) :
    templates.reverse.lookup name = (d.find? name).bind ofPieces? :=
  IsReading.lookup_eq (List.rel_reverse h)

theorem IsReading.exists_of_mem {d : Dialect} {templates : List (Text × List Token)}
    (h : IsReading d templates) {entry : Text × Template} (hentry : entry ∈ d) :
    ∃ tokens, ofPieces? entry.2 = some tokens := by
  induction h with
  | nil => cases hentry
  | cons hread _ ih =>
    rcases List.mem_cons.mp hentry with rfl | hmem
    · exact ⟨_, hread.2⟩
    · exact ih hmem

/-- The template of a name that counts has been read. -/
theorem IsReading.exists_of_find? {d : Dialect} {templates : List (Text × List Token)}
    (h : IsReading d templates) (hfind : d.find? name = some t) :
    ∃ tokens, ofPieces? t = some tokens ∧ templates.reverse.lookup name = some tokens := by
  obtain ⟨tokens, htokens⟩ := h.exists_of_mem (Dialect.mem_of_find? hfind)
  exact ⟨tokens, htokens, by rw [h.lookup_reverse, hfind]; exact htokens⟩

end Plain

/-- **The plain template language keeps what the manual promises.** -/
theorem TemplateEngine.plain_lawful : TemplateEngine.plain.Lawful where
  takes d hd hplain :=
    (Plain.exists_isReading hplain).imp fun _ => (Plain.readAll_sources_iff hd).mpr
  misses {d templates} h name context hfind := by
    have hreading := (Plain.readAll_sources_iff h.written).mp h.added
    refine ⟨.missing name, ?_⟩
    change Plain.render templates name context = _
    simp only [Plain.render, hreading.lookup_reverse, hfind, Option.bind_none]
  writes {d templates} h name context t _ hfind hsuits := by
    have hreading := (Plain.readAll_sources_iff h.written).mp h.added
    obtain ⟨tokens, htokens, hlookup⟩ := hreading.exists_of_find? hfind
    obtain ⟨u, hu, hplain⟩ := (Plain.renderTokens?_ofPieces? htokens).1 hsuits
    refine ⟨u, ?_, hplain⟩
    change Plain.render templates name context = _
    simp only [Plain.render, hlookup, hu]
  refuses {d templates} h name context t _ hfind hsuits := by
    have hreading := (Plain.readAll_sources_iff h.written).mp h.added
    obtain ⟨tokens, htokens, hlookup⟩ := hreading.exists_of_find? hfind
    have hnone := (Plain.renderTokens?_ofPieces? htokens).2 hsuits
    refine ⟨.unknownParameter name, ?_⟩
    change Plain.render templates name context = _
    simp only [Plain.render, hlookup, hnone]

end PenPlotter
