import ScriptGate.Config.Settings

/-!
# Placeholders of the environment in settings data

Before settings are read, every `${NAME}` in a string of the data is replaced by the
variable `NAME` of the environment (`Environment.substitute`).  A placeholder is what the
pattern `\$\{([^}]+)\}` matches: `${`, a non-empty name with no closing brace, and the
first closing brace after it.  The matches are taken from left to right, each the leftmost
one that starts after the one before.  `Environment.Cut` says this of a list of pieces,
and the pieces a text is cut into are the only ones that satisfy it
(`Environment.pieces_eq_iff_cut`).  Put back together they give the text again
(`Environment.flatMap_text_pieces`).

The expansion of a text puts the text of each variable in place of its placeholder, and
keeps the placeholder as it is written where the environment has no such variable
(`Environment.shown`).  What is put in is never read again for placeholders
(`Environment.expand_eq`).  The environment keys its variables by bytes, so a name that
holds a lone surrogate standing for no byte is refused (`Environment.HasBytes`).

Through the data only the strings change: the keys of mappings, the lengths and order of
lists, and every other value stay (`Value.mapTexts`).  The replacement answers exactly on
data with no refused name and no collection that holds itself (`Value.allTexts`), and
then it replaces each string by its expansion (`substitute_eq_ok_iff`).  When no name of
the data is a variable, every string is kept (`substitute_of_unbound`).
`surrogateName_refused` is data that the replacement refuses.
-/

namespace ScriptGate

namespace Environment

/-! ## Where placeholders stand -/

/-- A name as the pattern of a placeholder takes one: not empty, and without a closing
brace. -/
def IsName (name : GlyphText) : Prop := name ≠ [] ∧ Glyph.scalar '\x7d' ∉ name

/-- The glyphs a piece stands for in its text. -/
def Piece.text : Piece → GlyphText
  | .glyph g => [g]
  | .hole name => written name

/-- `Cut t ps`: the pieces `ps` are the placeholders of `t`, each the leftmost match that
starts after the one before, and the glyphs between them.  A glyph stands alone only
where no placeholder starts. -/
inductive Cut : GlyphText → List Piece → Prop
  | nil : Cut [] []
  | hole {name rest : GlyphText} {ps : List Piece} :
      IsName name → Cut rest ps → Cut (written name ++ rest) (.hole name :: ps)
  | glyph {g : Glyph} {rest : GlyphText} {ps : List Piece} :
      (∀ name after, IsName name → g :: rest ≠ written name ++ after) →
      Cut rest ps → Cut (g :: rest) (.glyph g :: ps)

theorem written_append (name after : GlyphText) :
    written name ++ after =
      .scalar '$' :: .scalar '\x7b' :: (name ++ .scalar '\x7d' :: after) := by
  simp [written]

/-- The name after a placeholder's opening runs to the first closing brace. -/
theorem placeholderName_append {acc name : GlyphText} (after : GlyphText)
    (hname : Glyph.scalar '\x7d' ∉ name) :
    placeholderName acc (name ++ .scalar '\x7d' :: after) =
      if acc.reverse ++ name = [] then none else some (acc.reverse ++ name, after) := by
  induction name generalizing acc with
  | nil => cases acc <;> simp [placeholderName]
  | cons g name ih =>
    have hg : g ≠ .scalar '\x7d' := fun h => hname (h ▸ List.mem_cons_self)
    rw [List.cons_append, placeholderName, if_neg hg,
      ih (fun h => hname (List.mem_cons_of_mem _ h))]
    simp

theorem placeholderName_of_isName {name : GlyphText} (after : GlyphText) (h : IsName name) :
    placeholderName [] (name ++ .scalar '\x7d' :: after) = some (name, after) := by
  rw [placeholderName_append after h.2]
  simp [h.1]

/-- What `placeholderName` finds is a name followed by a closing brace. -/
theorem eq_of_placeholderName {acc rest name after : GlyphText}
    (h : placeholderName acc rest = some (name, after)) :
    ∃ n, Glyph.scalar '\x7d' ∉ n ∧ rest = n ++ .scalar '\x7d' :: after ∧
      name = acc.reverse ++ n ∧ name ≠ [] := by
  induction rest generalizing acc with
  | nil => simp [placeholderName] at h
  | cons g rest ih =>
    unfold placeholderName at h
    split at h
    case isTrue hg =>
      split at h
      · cases h
      case isFalse hacc =>
        cases h
        exact ⟨[], by simp, by simp [hg], by simp, by simpa using hacc⟩
    case isFalse hg =>
      obtain ⟨n, hn, rfl, rfl, hne⟩ := ih h
      exact ⟨g :: n, by simp [hn, Ne.symm hg], rfl, by simp, hne⟩

/-- At most one placeholder starts at a place. -/
theorem written_append_inj {n n' a a' : GlyphText} (hn : IsName n) (hn' : IsName n')
    (h : written n ++ a = written n' ++ a') : n = n' ∧ a = a' := by
  rw [written_append, written_append] at h
  have hrest : n ++ .scalar '\x7d' :: a = n' ++ .scalar '\x7d' :: a' := by simpa using h
  have hfound := placeholderName_of_isName a hn
  rw [hrest, placeholderName_of_isName a' hn'] at hfound
  simp only [Option.some.injEq, Prod.mk.injEq] at hfound
  exact ⟨hfound.1.symm, hfound.2.symm⟩

@[simp] theorem pieces_written_append {name : GlyphText} (rest : GlyphText) (h : IsName name) :
    pieces (written name ++ rest) = .hole name :: pieces rest := by
  rw [written_append, pieces.eq_2]
  split
  case h_1 name' after' hfound =>
    rw [placeholderName_of_isName rest h] at hfound
    cases hfound
    rfl
  case h_2 hnone => simp [placeholderName_of_isName rest h] at hnone

theorem pieces_cons_of_unwritten {g : Glyph} {rest : GlyphText}
    (h : ∀ name after, IsName name → g :: rest ≠ written name ++ after) :
    pieces (g :: rest) = .glyph g :: pieces rest := by
  -- either the text opens a placeholder that no name closes, or it opens none
  by_cases hopen : ∃ more, g = .scalar '$' ∧ rest = .scalar '\x7b' :: more
  · obtain ⟨more, rfl, rfl⟩ := hopen
    rw [pieces.eq_2]
    split
    case h_1 name after hfound =>
      obtain ⟨n, hn, hmore, hname, hne⟩ := eq_of_placeholderName hfound
      simp only [List.reverse_nil, List.nil_append] at hname
      rw [hname] at hne
      exact (h n after ⟨hne, hn⟩ (by rw [hmore, written_append])).elim
    case h_2 => rfl
  · exact pieces.eq_3 g rest fun more hg hrest => hopen ⟨more, hg, hrest⟩

/-- The scan cuts every text as `Cut` says. -/
theorem cut_pieces (t : GlyphText) : Cut t (pieces t) := by
  fun_induction pieces t with
  | case1 => exact .nil
  | case2 rest name after hfound _ ih =>
    obtain ⟨n, hn, hrest, hname, hne⟩ := eq_of_placeholderName hfound
    simp only [List.reverse_nil, List.nil_append] at hname
    subst hrest hname
    rw [← written_append]
    exact .hole ⟨hne, hn⟩ ih
  | case3 rest hnone ih =>
    refine .glyph ?_ ih
    rintro name after hname heq
    rw [written_append] at heq
    simp only [List.cons.injEq, true_and] at heq
    rw [heq, placeholderName_of_isName after hname] at hnone
    cases hnone
  | case4 g rest hne ih =>
    refine .glyph ?_ ih
    rintro name after - heq
    rw [written_append] at heq
    simp only [List.cons.injEq] at heq
    exact hne _ heq.1 heq.2

theorem Cut.eq_pieces {t : GlyphText} {ps : List Piece} (h : Cut t ps) : ps = pieces t := by
  induction h with
  | nil => simp [pieces]
  | hole hname _ ih => rw [pieces_written_append _ hname, ih]
  | glyph hnone _ ih => rw [pieces_cons_of_unwritten hnone, ih]

/-- The pieces of a text are its placeholders taken leftmost first, and nothing else
cuts it so. -/
theorem pieces_eq_iff_cut {t : GlyphText} {ps : List Piece} : pieces t = ps ↔ Cut t ps :=
  ⟨fun h => h ▸ cut_pieces t, fun h => h.eq_pieces.symm⟩

theorem Cut.flatMap_text {t : GlyphText} {ps : List Piece} (h : Cut t ps) :
    ps.flatMap Piece.text = t := by
  induction h with
  | nil => rfl
  | hole _ _ ih => simp [Piece.text, ih]
  | glyph _ _ ih => simp [Piece.text, ih]

/-- The pieces of a text put back together give the text. -/
theorem flatMap_text_pieces (t : GlyphText) : (pieces t).flatMap Piece.text = t :=
  (cut_pieces t).flatMap_text

theorem mem_placeholderNames {t name : GlyphText} :
    name ∈ placeholderNames t ↔ Piece.hole name ∈ pieces t := by
  simp only [placeholderNames, List.mem_filterMap]
  constructor
  · rintro ⟨p, hp, hname⟩
    cases p <;> simp_all
  · exact fun h => ⟨_, h, rfl⟩

/-! ## Expanding a text -/

/-- Whether a name can be written as bytes: it holds no surrogate outside U+DC80 to
U+DCFF. -/
def HasBytes (name : GlyphText) : Bool := name.all fun g => (glyphBytes g).isSome

/-- Whether the name of a piece, if it has one, can be written as bytes. -/
def Piece.hasBytes : Piece → Bool
  | .glyph _ => true
  | .hole name => HasBytes name

/-- What a piece becomes where its name can be written: a glyph stays, and a placeholder
becomes the text of its variable, or stays as it is written when the environment has no
such variable. -/
def shown (env : Environment) : Piece → GlyphText
  | .glyph g => [g]
  | .hole name =>
    match env.valueOf name with
    | .ok (some v) => GlyphText.ofString v
    | _ => written name

/-- Whether every name of a text can be written as bytes. -/
def namesHaveBytes (t : GlyphText) : Bool := (placeholderNames t).all HasBytes

/-- Whether no name of a text is a variable of the environment. -/
def namesUnbound (env : Environment) (t : GlyphText) : Bool :=
  (placeholderNames t).all fun name => (env.valueOf name).toOption == some none

/-- A string of the data as it stands after its placeholders are replaced. -/
def expandedText (env : Environment) (t : GlyphText) : Value :=
  Value.ofText ((pieces t).flatMap env.shown)

theorem isSome_mapM_glyphBytes (name : GlyphText) :
    (name.mapM glyphBytes).isSome = HasBytes name := by
  induction name with
  | nil => rfl
  | cons g name ih =>
    simp only [List.mapM_cons, HasBytes, List.all_cons] at ih ⊢
    cases glyphBytes g <;> simp [← ih]
    cases name.mapM glyphBytes <;> rfl

theorem valueOf_of_not_hasBytes {env : Environment} {name : GlyphText}
    (h : HasBytes name = false) : env.valueOf name = .error .unencodable := by
  have hnone : name.mapM glyphBytes = none := by
    cases hm : name.mapM glyphBytes with
    | none => rfl
    | some _ => simpa [hm, h] using isSome_mapM_glyphBytes name
  simp [valueOf, hnone]

theorem exists_valueOf_of_hasBytes {env : Environment} {name : GlyphText}
    (h : HasBytes name = true) : ∃ v, env.valueOf name = .ok v := by
  obtain ⟨bytes, hbytes⟩ := Option.isSome_iff_exists.1 ((isSome_mapM_glyphBytes name).trans h)
  exact ⟨_, by rw [valueOf, hbytes]⟩

theorem expandPiece_eq (env : Environment) (p : Piece) :
    env.expandPiece p = if p.hasBytes then .ok (env.shown p) else .error .unencodable := by
  cases p with
  | glyph g => rfl
  | hole name =>
    cases hname : HasBytes name
    case false => simp [expandPiece, Piece.hasBytes, hname, valueOf_of_not_hasBytes hname]; rfl
    case true =>
      obtain ⟨v, hv⟩ := @exists_valueOf_of_hasBytes env name hname
      cases v <;> simp [expandPiece, Piece.hasBytes, shown, hname, hv] <;> rfl

theorem mapM_expandPiece (env : Environment) (ps : List Piece) :
    ps.mapM env.expandPiece =
      if ps.all Piece.hasBytes then .ok (ps.map env.shown) else .error .unencodable := by
  induction ps with
  | nil => rfl
  | cons p ps ih =>
    rw [List.mapM_cons, expandPiece_eq, ih, List.all_cons, List.map_cons]
    cases p.hasBytes <;> cases ps.all Piece.hasBytes <;> rfl

/-- A text expands to its pieces as they are shown, each placeholder replaced once and
what replaces it never read again, unless a name cannot be written. -/
theorem expand_eq (env : Environment) (t : GlyphText) :
    env.expand t = if namesHaveBytes t
      then .ok ((pieces t).flatMap env.shown) else .error .unencodable := by
  have hnames : namesHaveBytes t = (pieces t).all Piece.hasBytes := by
    rw [namesHaveBytes, Bool.eq_iff_iff, List.all_eq_true, List.all_eq_true]
    constructor
    · intro h p hp
      cases p with
      | glyph g => rfl
      | hole name => exact h name (mem_placeholderNames.2 hp)
    · exact fun h name hname => h _ (mem_placeholderNames.1 hname)
  rw [expand, mapM_expandPiece, hnames]
  cases (pieces t).all Piece.hasBytes
  · rfl
  · rfl

theorem namesHaveBytes_of_unbound {env : Environment} {t : GlyphText}
    (h : env.namesUnbound t = true) : namesHaveBytes t = true := by
  refine List.all_eq_true.2 fun name hname => ?_
  cases hb : HasBytes name
  · have hnone := List.all_eq_true.1 h name hname
    simp [valueOf_of_not_hasBytes hb, Except.toOption] at hnone
  · rfl

/-- Where no name of a text is a variable, the text stays as it is. -/
theorem expandedText_of_unbound {env : Environment} {t : GlyphText}
    (h : env.namesUnbound t = true) : env.expandedText t = Value.ofText t := by
  have hshown : ∀ p ∈ pieces t, env.shown p = p.text := by
    intro p hp
    cases p with
    | glyph g => rfl
    | hole name =>
      have hnone := List.all_eq_true.1 h name (mem_placeholderNames.2 hp)
      cases hv : env.valueOf name with
      | error e => simp [hv, Except.toOption] at hnone
      | ok v => cases v <;> simp_all [shown, Piece.text, Except.toOption]
  have hflat : (pieces t).flatMap env.shown = (pieces t).flatMap Piece.text :=
    congrArg List.flatten (List.map_congr_left hshown)
  rw [expandedText, hflat, flatMap_text_pieces]

end Environment

/-! ## Substitution through the data -/

namespace Value

mutual

/-- A value with each of its strings, through lists and the values of mappings, replaced
by what `f` makes of its glyphs; everything else stays. -/
def mapTexts (f : GlyphText → Value) : Value → Value
  | .str s => f (GlyphText.ofString s)
  | .glyphs t => f t
  | .list items => .list (mapTextsItems f items)
  | .obj fields => .obj (mapTextsFields f fields)
  | .dict entries => .dict (mapTextsEntries f entries)
  | v => v

/-- Items with their strings replaced. -/
def mapTextsItems (f : GlyphText → Value) : List Value → List Value
  | [] => []
  | v :: rest => mapTexts f v :: mapTextsItems f rest

/-- Fields with the strings of their values replaced; names stay. -/
def mapTextsFields (f : GlyphText → Value) : List (String × Value) → List (String × Value)
  | [] => []
  | (k, v) :: rest => (k, mapTexts f v) :: mapTextsFields f rest

/-- Entries with the strings of their values replaced; keys stay. -/
def mapTextsEntries (f : GlyphText → Value) : List (Value × Value) → List (Value × Value)
  | [] => []
  | (k, v) :: rest => (k, mapTexts f v) :: mapTextsEntries f rest

end

mutual

/-- Whether every string of a value, through lists and the values of mappings, passes
`p`, and no collection there holds itself. -/
def allTexts (p : GlyphText → Bool) : Value → Bool
  | .str s => p (GlyphText.ofString s)
  | .glyphs t => p t
  | .list items => allTextsItems p items
  | .obj fields => allTextsFields p fields
  | .dict entries => allTextsEntries p entries
  | .cycle _ => false
  | _ => true

/-- Whether every item passes. -/
def allTextsItems (p : GlyphText → Bool) : List Value → Bool
  | [] => true
  | v :: rest => allTexts p v && allTextsItems p rest

/-- Whether the value of every field passes. -/
def allTextsFields (p : GlyphText → Bool) : List (String × Value) → Bool
  | [] => true
  | (_, v) :: rest => allTexts p v && allTextsFields p rest

/-- Whether the value of every entry passes. -/
def allTextsEntries (p : GlyphText → Bool) : List (Value × Value) → Bool
  | [] => true
  | (_, v) :: rest => allTexts p v && allTextsEntries p rest

end

mutual

/-- Where `p` holds of every string of a value, so does `q`, when `q` holds wherever `p`
does; and replacing the strings by `f` or by `g` gives one value, when they agree
wherever `p` holds. -/
theorem allTexts_mapTexts_congr {p q : GlyphText → Bool} {f g : GlyphText → Value}
    (h : ∀ t, p t = true → q t = true ∧ f t = g t) :
    ∀ d : Value, d.allTexts p = true → d.allTexts q = true ∧ d.mapTexts f = d.mapTexts g
  | .str _, hd | .glyphs _, hd => h _ hd
  | .list items, hd => by
    obtain ⟨hq, hmap⟩ := allTextsItems_mapTextsItems_congr h items hd
    exact ⟨hq, by rw [mapTexts, mapTexts, hmap]⟩
  | .obj fields, hd => by
    obtain ⟨hq, hmap⟩ := allTextsFields_mapTextsFields_congr h fields hd
    exact ⟨hq, by rw [mapTexts, mapTexts, hmap]⟩
  | .dict entries, hd => by
    obtain ⟨hq, hmap⟩ := allTextsEntries_mapTextsEntries_congr h entries hd
    exact ⟨hq, by rw [mapTexts, mapTexts, hmap]⟩
  | .cycle _, hd => by simp [allTexts] at hd
  | .null, _ | .bool _, _ | .int _, _ | .float _, _ | .stamp _, _ | .bytes _, _ | .tuple _, _
  | .set _, _ => ⟨rfl, rfl⟩

theorem allTextsItems_mapTextsItems_congr {p q : GlyphText → Bool} {f g : GlyphText → Value}
    (h : ∀ t, p t = true → q t = true ∧ f t = g t) :
    ∀ items : List Value, allTextsItems p items = true →
      allTextsItems q items = true ∧ mapTextsItems f items = mapTextsItems g items
  | [], _ => ⟨rfl, rfl⟩
  | v :: rest, hd => by
    simp only [allTextsItems, Bool.and_eq_true] at hd
    obtain ⟨hv, hvmap⟩ := allTexts_mapTexts_congr h v hd.1
    obtain ⟨hrest, hrestmap⟩ := allTextsItems_mapTextsItems_congr h rest hd.2
    exact ⟨by simp [allTextsItems, hv, hrest], by rw [mapTextsItems, mapTextsItems, hvmap, hrestmap]⟩

theorem allTextsFields_mapTextsFields_congr {p q : GlyphText → Bool} {f g : GlyphText → Value}
    (h : ∀ t, p t = true → q t = true ∧ f t = g t) :
    ∀ fields : List (String × Value), allTextsFields p fields = true →
      allTextsFields q fields = true ∧ mapTextsFields f fields = mapTextsFields g fields
  | [], _ => ⟨rfl, rfl⟩
  | (_, v) :: rest, hd => by
    simp only [allTextsFields, Bool.and_eq_true] at hd
    obtain ⟨hv, hvmap⟩ := allTexts_mapTexts_congr h v hd.1
    obtain ⟨hrest, hrestmap⟩ := allTextsFields_mapTextsFields_congr h rest hd.2
    exact ⟨by simp [allTextsFields, hv, hrest],
      by rw [mapTextsFields, mapTextsFields, hvmap, hrestmap]⟩

theorem allTextsEntries_mapTextsEntries_congr {p q : GlyphText → Bool} {f g : GlyphText → Value}
    (h : ∀ t, p t = true → q t = true ∧ f t = g t) :
    ∀ entries : List (Value × Value), allTextsEntries p entries = true →
      allTextsEntries q entries = true ∧ mapTextsEntries f entries = mapTextsEntries g entries
  | [], _ => ⟨rfl, rfl⟩
  | (_, v) :: rest, hd => by
    simp only [allTextsEntries, Bool.and_eq_true] at hd
    obtain ⟨hv, hvmap⟩ := allTexts_mapTexts_congr h v hd.1
    obtain ⟨hrest, hrestmap⟩ := allTextsEntries_mapTextsEntries_congr h rest hd.2
    exact ⟨by simp [allTextsEntries, hv, hrest],
      by rw [mapTextsEntries, mapTextsEntries, hvmap, hrestmap]⟩

end

end Value

namespace Environment

variable (env : Environment)

theorem map_eq_ok_iff {α β : Type} {f : α → β} {x : Except Refusal α} {b : β} :
    f <$> x = .ok b ↔ ∃ a, x = .ok a ∧ b = f a := by
  cases x <;> simp [Functor.map, Except.map, eq_comm]

theorem bind_eq_ok_iff {α β : Type} {f : α → Except Refusal β} {x : Except Refusal α} {b : β} :
    x >>= f = .ok b ↔ ∃ a, x = .ok a ∧ f a = .ok b := by
  cases x <;> simp [bind, Except.bind]

theorem expand_map_eq_ok_iff (t : GlyphText) (d' : Value) :
    Value.ofText <$> env.expand t = .ok d' ↔ namesHaveBytes t ∧ d' = env.expandedText t := by
  rw [map_eq_ok_iff, expand_eq]
  cases namesHaveBytes t <;> simp [expandedText]

mutual

theorem substitute_eq_ok_iff : ∀ (d d' : Value),
    env.substitute d = .ok d' ↔
      d.allTexts namesHaveBytes ∧ d' = d.mapTexts env.expandedText
  | .str s, d' => by simp only [substitute, Value.allTexts, Value.mapTexts, expand_map_eq_ok_iff]
  | .glyphs t, d' => by simp only [substitute, Value.allTexts, Value.mapTexts, expand_map_eq_ok_iff]
  | .list items, d' => by
    simp only [substitute, Value.allTexts, Value.mapTexts, map_eq_ok_iff,
      substituteItems_eq_ok_iff items]
    constructor
    · rintro ⟨ws, ⟨hall, rfl⟩, rfl⟩; exact ⟨hall, rfl⟩
    · rintro ⟨hall, rfl⟩; exact ⟨_, ⟨hall, rfl⟩, rfl⟩
  | .obj fields, d' => by
    simp only [substitute, Value.allTexts, Value.mapTexts, map_eq_ok_iff,
      substituteFields_eq_ok_iff fields]
    constructor
    · rintro ⟨ws, ⟨hall, rfl⟩, rfl⟩; exact ⟨hall, rfl⟩
    · rintro ⟨hall, rfl⟩; exact ⟨_, ⟨hall, rfl⟩, rfl⟩
  | .dict entries, d' => by
    simp only [substitute, Value.allTexts, Value.mapTexts, map_eq_ok_iff,
      substituteEntries_eq_ok_iff entries]
    constructor
    · rintro ⟨ws, ⟨hall, rfl⟩, rfl⟩; exact ⟨hall, rfl⟩
    · rintro ⟨hall, rfl⟩; exact ⟨_, ⟨hall, rfl⟩, rfl⟩
  | .cycle _, d' => by simp [substitute, Value.allTexts]
  | .null, d' | .bool _, d' | .int _, d' | .float _, d' | .stamp _, d' | .bytes _, d'
  | .tuple _, d' | .set _, d' => by
    simp [substitute, Value.allTexts, Value.mapTexts, eq_comm]

theorem substituteItems_eq_ok_iff : ∀ (items ws : List Value),
    substituteItems env items = .ok ws ↔
      Value.allTextsItems namesHaveBytes items ∧ ws = Value.mapTextsItems env.expandedText items
  | [], ws => by simp [substituteItems, Value.allTextsItems, Value.mapTextsItems,
      eq_comm]
  | v :: rest, ws => by
    simp only [substituteItems, bind_eq_ok_iff, substitute_eq_ok_iff v, substituteItems_eq_ok_iff rest]
    constructor
    · rintro ⟨_, ⟨hv, rfl⟩, _, ⟨hrest, rfl⟩, hws⟩
      cases hws
      exact ⟨by simp [Value.allTextsItems, hv, hrest], rfl⟩
    · rintro ⟨hall, rfl⟩
      simp only [Value.allTextsItems, Bool.and_eq_true] at hall
      exact ⟨_, ⟨hall.1, rfl⟩, _, ⟨hall.2, rfl⟩, rfl⟩

theorem substituteFields_eq_ok_iff : ∀ (fields ws : List (String × Value)),
    substituteFields env fields = .ok ws ↔
      Value.allTextsFields namesHaveBytes fields ∧
        ws = Value.mapTextsFields env.expandedText fields
  | [], ws => by simp [substituteFields, Value.allTextsFields, Value.mapTextsFields,
      eq_comm]
  | (k, v) :: rest, ws => by
    simp only [substituteFields, bind_eq_ok_iff, substitute_eq_ok_iff v, substituteFields_eq_ok_iff rest]
    constructor
    · rintro ⟨_, ⟨hv, rfl⟩, _, ⟨hrest, rfl⟩, hws⟩
      cases hws
      exact ⟨by simp [Value.allTextsFields, hv, hrest], rfl⟩
    · rintro ⟨hall, rfl⟩
      simp only [Value.allTextsFields, Bool.and_eq_true] at hall
      exact ⟨_, ⟨hall.1, rfl⟩, _, ⟨hall.2, rfl⟩, rfl⟩

theorem substituteEntries_eq_ok_iff : ∀ (entries ws : List (Value × Value)),
    substituteEntries env entries = .ok ws ↔
      Value.allTextsEntries namesHaveBytes entries ∧
        ws = Value.mapTextsEntries env.expandedText entries
  | [], ws => by simp [substituteEntries, Value.allTextsEntries, Value.mapTextsEntries,
      eq_comm]
  | (k, v) :: rest, ws => by
    simp only [substituteEntries, bind_eq_ok_iff, substitute_eq_ok_iff v, substituteEntries_eq_ok_iff rest]
    constructor
    · rintro ⟨_, ⟨hv, rfl⟩, _, ⟨hrest, rfl⟩, hws⟩
      cases hws
      exact ⟨by simp [Value.allTextsEntries, hv, hrest], rfl⟩
    · rintro ⟨hall, rfl⟩
      simp only [Value.allTextsEntries, Bool.and_eq_true] at hall
      exact ⟨_, ⟨hall.1, rfl⟩, _, ⟨hall.2, rfl⟩, rfl⟩

end

/-- Where no name of the data is a variable, every string is kept, as a `str` when it
holds no lone surrogate. -/
theorem substitute_of_unbound (d : Value) (h : d.allTexts env.namesUnbound = true) :
    env.substitute d = .ok (d.mapTexts Value.ofText) := by
  obtain ⟨hbytes, hmap⟩ := Value.allTexts_mapTexts_congr
    (fun _ ht => ⟨namesHaveBytes_of_unbound ht, expandedText_of_unbound ht⟩) d h
  exact (substitute_eq_ok_iff env d _).2 ⟨hbytes, hmap.symm⟩

/-- Replacing placeholders keeps the shape of the data and replaces each string in one
pass.  The placeholders of a string are the pattern's matches taken leftmost first, and
they cut it into pieces that give it back.  Each placeholder becomes the text of its
variable, or stays as it is written, and what is put in is not read again.  The
replacement answers exactly when no name holds a surrogate that stands for no byte and
no collection holds itself, and then only the strings change.  Where no name is a
variable, every string is kept. -/
theorem substitute_expands_each_string_once :
    (∀ t ps, pieces t = ps ↔ Cut t ps) ∧
    (∀ t, (pieces t).flatMap Piece.text = t) ∧
    (∀ d d', env.substitute d = .ok d' ↔
      d.allTexts namesHaveBytes ∧ d' = d.mapTexts env.expandedText) ∧
    (∀ d, d.allTexts env.namesUnbound = true →
      env.substitute d = .ok (d.mapTexts Value.ofText)) :=
  ⟨fun _ _ => pieces_eq_iff_cut, flatMap_text_pieces, substitute_eq_ok_iff env,
    substitute_of_unbound env⟩

/-- The data `{"x": "${\ud800}"}`: one string, a placeholder whose name is a lone
surrogate. -/
def surrogateNameData : Value := .obj [("x", .glyphs (written [.surrogate 0xD800]))]

/-- Data whose one placeholder is named by a lone surrogate is refused, though the
environment has no variable and the placeholder would be kept. -/
theorem surrogateName_refused :
    namesHaveBytes (written [.surrogate 0xD800]) = false ∧
    ProjectSettings.read [] surrogateNameData = .error .unencodable := by
  have hpieces : pieces (written [.surrogate 0xD800]) = [.hole [.surrogate 0xD800]] := by
    simpa [pieces] using
      @pieces_written_append [.surrogate 0xD800] [] ⟨by simp, by simp⟩
  have hnames : namesHaveBytes (written [.surrogate 0xD800]) = false := by
    simp [namesHaveBytes, placeholderNames, hpieces, HasBytes, glyphBytes]
  refine ⟨hnames, ?_⟩
  simp [ProjectSettings.read, surrogateNameData, substitute, substituteFields, expand_eq,
    hnames, bind, Except.bind, Functor.map, Except.map]

end Environment

end ScriptGate
