import ScriptGate.Diagnostic.Snippet

/-!
# The window and the caret of a snippet

A snippet shows the lines of a text around a located line: two before it and two after it,
clamped to the text.  Each line is written as a marker, its number right-aligned in four places,
a bar, and its text without the carriage returns that end it, cut to eighty glyphs
(`Snippet.numbered`).  The located line has the marker `>` and a caret line after it
(`Snippet.caretLine`); every other line has a blank marker.

*The window.*  No line of a snippet holds a newline, so splitting a snippet at its newlines
gives back its lines (`GlyphText.splitOn_intercalate`), and they are exactly the numbered lines
of the window in order, with the caret line right after the located one (`snippet_splitOn`).
A text that is empty or ends before the located line has no snippet (`snippet_eq_nil`).

*The caret.*  The caret stands at a fixed width, `Snippet.gutter`, plus the column, while the
text of a numbered line starts after its marker, its number and its bar
(`Snippet.textStart`), a width that grows with the number's digits.  A column within the
first 77 glyphs of the located line shows that line's glyph at the text start plus the column
(`Snippet.numbered_getElem?_textStart`), so the caret points at it exactly when the line number
has at most four digits (`Snippet.gutter_eq_textStart_iff`).  On line 10000 the caret stands one
place to the left of the glyph it means (`tenThousandLines_caret_misplaced`).
-/

namespace ScriptGate

namespace GlyphText

/-- Splitting a text at a character is splitting its list of glyphs at that character. -/
theorem splitOn_eq_list_splitOn (sep : Char) (t : GlyphText) :
    t.splitOn sep = List.splitOn (Glyph.scalar sep) t := by
  induction t with
  | nil => rfl
  | cons g rest ih =>
    rw [splitOn, ih, List.splitOn_cons_eq_if_modifyHead]
    by_cases hg : g = .scalar sep
    · simp [hg]
    · -- the split of the rest always has a first piece, which `g` joins
      have hne := List.splitOn_ne_nil (Glyph.scalar sep) rest
      simp only [hg, if_false, beq_iff_eq]
      cases hsplit : List.splitOn (Glyph.scalar sep) rest with
      | nil => exact absurd hsplit hne
      | cons first others => rfl

/-- No piece of a split holds the character it was split at. -/
theorem not_mem_of_mem_splitOn {sep : Char} :
    ∀ {t piece : GlyphText}, piece ∈ t.splitOn sep → Glyph.scalar sep ∉ piece
  | [], piece, h => by
    rw [show piece = [] by simpa [splitOn] using h]
    exact List.not_mem_nil
  | g :: rest, piece, h => by
    rw [splitOn] at h
    split at h
    · rcases List.mem_cons.1 h with rfl | h
      · exact List.not_mem_nil
      · exact not_mem_of_mem_splitOn h
    · next hg =>
      split at h
      · next hsplit =>
        rw [List.mem_singleton.1 h, List.mem_singleton]
        exact Ne.symm hg
      · next first others hsplit =>
        rcases List.mem_cons.1 h with rfl | h
        · have hfirst : Glyph.scalar sep ∉ first :=
            not_mem_of_mem_splitOn (hsplit ▸ List.mem_cons_self)
          exact fun hmem => (List.mem_cons.1 hmem).elim (fun he => hg he.symm) hfirst
        · exact not_mem_of_mem_splitOn (hsplit ▸ List.mem_cons_of_mem _ h)

/-- Pieces joined by a character none of them holds split back into themselves. -/
theorem splitOn_intercalate {sep : Char} {pieces : List GlyphText}
    (hsep : ∀ p ∈ pieces, Glyph.scalar sep ∉ p) (hne : pieces ≠ []) :
    GlyphText.splitOn sep ((pieces.intersperse [Glyph.scalar sep]).flatten) = pieces := by
  rw [splitOn_eq_list_splitOn]
  exact List.splitOn_intercalate (Glyph.scalar sep) hsep hne

theorem splitOn_replicate_append (sep : Char) (k : Nat) (t : GlyphText) :
    GlyphText.splitOn sep (List.replicate k (Glyph.scalar sep) ++ t) =
      List.replicate k [] ++ t.splitOn sep := by
  induction k with
  | zero => rfl
  | succ k ih =>
    rw [List.replicate_succ, List.cons_append, splitOn, if_pos rfl, ih]
    rfl

theorem length_splitOn_pos (sep : Char) (t : GlyphText) : 0 < (t.splitOn sep).length := by
  rw [splitOn_eq_list_splitOn]
  exact List.length_pos_iff.2 (List.splitOn_ne_nil _ _)

theorem mem_ofString {g : Glyph} {s : String} : g ∈ ofString s ↔ ∃ c ∈ s.toList, g = .scalar c := by
  simp [ofString, eq_comm]

end GlyphText

namespace Snippet

/-! ## The lines of a snippet -/

/-- Line `i` of a text's lines, counted from 1, as a snippet shows it: the marker, a space, the
line's number right-aligned in four places, a bar between spaces, and the line without the
carriage returns that end it, cut to the widest line shown whole. -/
def numbered (lines : List GlyphText) (marker : String) (i : Nat) : GlyphText :=
  GlyphText.ofString (marker ++ " " ++ number i ++ " | ") ++
    fit defaultWidth (dropReturns (lines.getD (i - 1) []))

/-- The line under the located one: blanks across the gutter and the column, then a caret. -/
def caretLine (column : Nat) : GlyphText :=
  List.replicate (gutter + column) (.scalar ' ') ++ [.scalar '^']

/-- Where the text of numbered line `i` starts: after a one-glyph marker, a space, the number,
and the bar between spaces. -/
def textStart (i : Nat) : Nat := 5 + (number i).length

theorem row_eq (lines : List GlyphText) (located column i : Nat) :
    row defaultWidth located column i (lines.getD i []) =
      if i = located then [numbered lines ">" (i + 1), caretLine column]
      else [numbered lines " " (i + 1)] := by
  unfold row numbered caretLine
  by_cases h : i = located
  · simp [h, GlyphText.ofString, List.map_replicate]
  · simp [h]

theorem toList_number (n : Nat) :
    (number n).toList = List.replicate (4 - (toString n).length) ' ' ++ (toString n).toList := by
  simp [number]

theorem length_number (n : Nat) : (number n).length = max 4 (toString n).length := by
  rw [← String.length_toList, toList_number, List.length_append, List.length_replicate,
    String.length_toList]
  omega

/-- A number fits the four places exactly when it has at most four digits. -/
theorem length_number_eq_four_iff (n : Nat) : (number n).length = 4 ↔ n < 10000 := by
  rw [length_number, show toString n = n.repr from rfl]
  have hdigits := @Nat.length_repr_le_iff n 4 (by decide)
  constructor
  · intro h
    exact hdigits.1 (by omega)
  · intro h
    have := hdigits.2 h
    omega

theorem not_mem_number (n : Nat) : '\n' ∉ (number n).toList := by
  rw [toList_number, List.mem_append]
  rintro (h | h)
  · exact absurd (List.eq_of_mem_replicate h) (by decide)
  · rw [show toString n = n.repr from rfl, Nat.toList_repr] at h
    exact absurd (Nat.isDigit_of_mem_toDigits (by decide) (by decide) h) (by decide)

/-- A line without its final carriage returns is a prefix of it. -/
theorem dropReturns_isPrefixOf (t : GlyphText) : dropReturns t <+: t := by
  unfold dropReturns
  have h := List.reverse_prefix.2 (@List.dropWhile_suffix _ t.reverse (· == .scalar '\r'))
  rwa [List.reverse_reverse] at h

theorem length_fit_le (t : GlyphText) : (fit defaultWidth t).length ≤ 80 := by
  unfold fit keep defaultWidth
  split
  · simp only [show (0 : Int) ≤ 80 - 3 by decide, if_true, List.length_append,
      List.length_take, GlyphText.ofString]
    have hdots : (List.map Glyph.scalar "...".toList).length = 3 := by
      rw [List.length_map]
      decide
    rw [hdots, show (80 - 3 : Int).toNat = 77 by decide]
    omega
  · omega

theorem fit_sublist (t : GlyphText) : ∀ g ∈ fit defaultWidth t, g ∈ t ∨ g = .scalar '.' := by
  intro g hg
  unfold fit keep defaultWidth at hg
  split at hg
  · simp only [show (0 : Int) ≤ 80 - 3 by decide, if_true, List.mem_append] at hg
    rcases hg with hg | hg
    · exact .inl (List.mem_of_mem_take hg)
    · right
      simpa [GlyphText.ofString] using hg
  · exact .inl hg

/-- A column within the first 77 glyphs of a line, or at its end, shows the line's glyph there
when the line is cut to the width: cutting keeps the first 77 glyphs. -/
theorem fit_getElem? {t : GlyphText} {c : Nat} (hc : c ≤ 76) :
    (fit defaultWidth t)[c]? = t[c]? := by
  unfold fit keep defaultWidth
  split
  · next hlong =>
    simp only [show (0 : Int) ≤ 80 - 3 by decide, if_true]
    rw [List.getElem?_append_left (by simp; omega), List.getElem?_take]
    simp only [show ((80 : Int) - 3).toNat = 77 by decide]
    rw [if_pos (by omega)]
  · rfl

theorem not_mem_numbered {lines : List GlyphText} {marker : String} {i : Nat}
    (hmarker : '\n' ∉ marker.toList) (hlines : ∀ l ∈ lines, Glyph.scalar '\n' ∉ l) :
    Glyph.scalar '\n' ∉ numbered lines marker i := by
  unfold numbered
  rw [List.mem_append, not_or]
  constructor
  · rw [GlyphText.mem_ofString]
    rintro ⟨c, hc, hcg⟩
    cases hcg
    simp only [String.toList_append, List.mem_append] at hc
    rcases hc with ((hc | hc) | hc) | hc
    · exact hmarker hc
    · exact absurd hc (by decide)
    · exact not_mem_number i hc
    · exact absurd hc (by decide)
  · intro hmem
    -- the shown text comes from the line itself, or from the dots that mark a cut
    rcases fit_sublist _ _ hmem with hmem | hmem
    · have hline : Glyph.scalar '\n' ∉ lines.getD (i - 1) [] := by
        rw [List.getD_eq_getElem?_getD]
        cases hget : lines[i - 1]? with
        | none => exact List.not_mem_nil
        | some l => exact hlines l (List.mem_of_getElem? hget)
      exact hline ((dropReturns_isPrefixOf _).subset hmem)
    · cases hmem

theorem not_mem_caretLine (column : Nat) : Glyph.scalar '\n' ∉ caretLine column := by
  simp [caretLine, List.mem_replicate]

/-- The text of a numbered line stands after its start. -/
theorem numbered_drop_textStart (lines : List GlyphText) (i : Nat) {marker : String}
    (hmarker : marker.length = 1) :
    (numbered lines marker i).drop (textStart i) =
      fit defaultWidth (dropReturns (lines.getD (i - 1) [])) := by
  unfold numbered textStart
  have hlen : (GlyphText.ofString (marker ++ " " ++ number i ++ " | ")).length =
      5 + (number i).length := by
    simp only [GlyphText.ofString, List.length_map, String.toList_append, List.length_append,
      String.length_toList, hmarker]
    have hspace : " ".length = 1 := by decide
    have hbar : " | ".length = 3 := by decide
    omega
  rw [List.drop_append_of_le_length (by omega), List.drop_eq_nil_of_le (by omega), List.nil_append]

/-- A column within the first 77 glyphs of a numbered line's text, or at its end, shows that
line's glyph at the text start plus the column. -/
theorem numbered_getElem?_textStart (lines : List GlyphText) (i : Nat) {c : Nat}
    {marker : String} (hmarker : marker.length = 1) (hc : c ≤ 76) :
    (numbered lines marker i)[textStart i + c]? = (dropReturns (lines.getD (i - 1) []))[c]? := by
  rw [← List.getElem?_drop, numbered_drop_textStart lines i hmarker, fit_getElem? hc]

/-- The caret stands at the gutter plus the column. -/
theorem idxOf_caretLine (column : Nat) :
    (caretLine column).idxOf (.scalar '^') = gutter + column := by
  unfold caretLine
  rw [List.idxOf_append, if_neg (by simp [List.mem_replicate]), List.length_replicate]
  simp

/-- The caret's place is the text start exactly when the line number has at most four digits. -/
theorem gutter_eq_textStart_iff (i : Nat) : gutter = textStart i ↔ i < 10000 := by
  rw [← length_number_eq_four_iff, textStart, gutter]
  omega

end Snippet

/-! ## The window -/

section Window

variable (lines : List GlyphText)

theorem zip_range_eq_map :
    (List.range lines.length).zip lines = (List.range lines.length).map fun i => (i, lines.getD i []) := by
  apply List.ext_getElem
  · simp
  · intro i h₁ h₂
    have hi : i < lines.length := by simpa using h₁
    simp [List.getD_eq_getElem?_getD, List.getElem?_eq_getElem hi]

theorem range'_split (s : Nat) {m n : Nat} (h : m ≤ n) :
    List.range' s n = List.range' s m ++ List.range' (s + m) (n - m) := by
  rw [List.range'_append_1]
  congr 1
  omega

/-- The indices from `a` to `b` of a range are a range of their own. -/
theorem filter_range_between {a b n : Nat} (hab : a ≤ b) (hb : b < n) :
    (List.range n).filter (fun i : Nat => decide ((a : Int) ≤ (i : Int)) && decide ((i : Int) ≤ b)) =
      List.range' a (b + 1 - a) := by
  have hsplit : List.range n = List.range' 0 a ++ List.range' a (b + 1 - a) ++
      List.range' (b + 1) (n - (b + 1)) := by
    rw [List.range_eq_range', range'_split 0 (show b + 1 ≤ n by omega),
      range'_split 0 (show a ≤ b + 1 by omega)]
    simp only [Nat.zero_add]
  rw [hsplit, List.filter_append, List.filter_append]
  rw [List.filter_eq_nil_iff.2 (fun i hi => by simp [List.mem_range'] at hi; simp; omega),
    List.filter_eq_self.2 (fun i hi => by simp [List.mem_range'] at hi; simp; omega),
    List.filter_eq_nil_iff.2 (fun i hi => by simp [List.mem_range'] at hi; simp; omega)]
  simp

/-- The rows shown for a range of lines that holds the located one: the lines before it, the
located line and its caret, the lines after it. -/
theorem flatMap_row {a k located column : Nat} (ha : a ≤ located) (hk : located < a + k) :
    (List.range' a k).flatMap
        (fun i => Snippet.row Snippet.defaultWidth located column i (lines.getD i [])) =
      (List.range' (a + 1) (located - a)).map (Snippet.numbered lines " ") ++
        Snippet.numbered lines ">" (located + 1) :: Snippet.caretLine column ::
        (List.range' (located + 2) (a + k - located - 1)).map (Snippet.numbered lines " ") := by
  have hsplit : List.range' a k =
      List.range' a (located - a) ++ located :: List.range' (located + 1) (a + k - located - 1) := by
    rw [range'_split a (show located - a ≤ k by omega), show a + (located - a) = located by omega,
      show k - (located - a) = a + k - located - 1 + 1 by omega, List.range'_succ]
  -- off the located line a row is the numbered line alone
  have hplain : ∀ {s m : Nat}, (s + m ≤ located ∨ located < s) →
      (List.range' s m).flatMap
          (fun i => Snippet.row Snippet.defaultWidth located column i (lines.getD i [])) =
        (List.range' (s + 1) m).map (Snippet.numbered lines " ") := by
    intro s m hoff
    induction m generalizing s with
    | zero => rfl
    | succ m ih =>
      rw [List.range'_succ, List.flatMap_cons, Snippet.row_eq, if_neg (by omega),
        List.range'_succ, List.map_cons, ih (by omega)]
      rfl
  rw [hsplit, List.flatMap_append, hplain (by omega), List.flatMap_cons, Snippet.row_eq,
    if_pos rfl, hplain (by omega)]
  rfl

end Window

/-- A text that is empty, or that ends before the located line, has no snippet. -/
theorem snippet_eq_nil {source : GlyphText} {loc : Location}
    (h : source = [] ∨ (source.splitOn '\n').length < loc.line) : snippet source loc = [] := by
  unfold snippet snippetWith
  rw [if_pos]
  rcases h with rfl | h
  · rfl
  · simp only [Bool.or_eq_true, decide_eq_true_eq]
    exact .inr (by omega)

/-- The lines of a snippet around a line of the text: the numbered lines from two before it to
two after it, clamped to the text, with the caret line right after the located one. -/
theorem snippet_splitOn {source : GlyphText} {loc : Location} (hsource : source ≠ [])
    (hline : 1 ≤ loc.line) (hlast : loc.line ≤ (source.splitOn '\n').length) :
    (snippet source loc).splitOn '\n' =
      (List.range' (max 1 (loc.line - 2)) (loc.line - max 1 (loc.line - 2))).map
          (Snippet.numbered (source.splitOn '\n') " ") ++
        Snippet.numbered (source.splitOn '\n') ">" loc.line :: Snippet.caretLine loc.column ::
        (List.range' (loc.line + 1) (min (source.splitOn '\n').length (loc.line + 2) - loc.line)).map
          (Snippet.numbered (source.splitOn '\n') " ") := by
  have hpred : ((fun x : Nat × GlyphText =>
        decide (max 0 (((loc.line - 1 : Nat) : Int) - Snippet.defaultContext) ≤ (x.1 : Int)) &&
          decide ((x.1 : Int) ≤ min (((source.splitOn '\n').length : Int) - 1)
            (((loc.line - 1 : Nat) : Int) + Snippet.defaultContext))) ∘
        fun i => (i, (source.splitOn '\n').getD i [])) =
      fun i : Nat => decide (((loc.line - 1 - 2 : Nat) : Int) ≤ (i : Int)) &&
        decide ((i : Int) ≤ ((min ((source.splitOn '\n').length - 1) (loc.line - 1 + 2) : Nat) : Int)) := by
    funext i
    simp only [Function.comp, Snippet.defaultContext]
    congr 1 <;> exact decide_eq_decide.2 (by omega)
  unfold snippet snippetWith
  rw [if_neg (by simp [hsource]; omega)]
  dsimp only
  rw [zip_range_eq_map, List.filter_map, hpred, filter_range_between (by omega) (by omega),
    List.flatMap_map]
  dsimp only
  rw [flatMap_row _ (by omega) (by omega), show GlyphText.ofString "\n" = [Glyph.scalar '\n'] from rfl,
    GlyphText.splitOn_intercalate _ (by simp)]
  · rw [show loc.line - 1 - 2 + (min ((source.splitOn '\n').length - 1) (loc.line - 1 + 2) + 1 -
        (loc.line - 1 - 2)) - (loc.line - 1) - 1 =
          min (source.splitOn '\n').length (loc.line + 2) - loc.line by omega,
      show loc.line - 1 - 2 + 1 = max 1 (loc.line - 2) by omega,
      show loc.line - 1 - (loc.line - 1 - 2) = loc.line - max 1 (loc.line - 2) by omega,
      show loc.line - 1 + 1 = loc.line by omega, show loc.line - 1 + 2 = loc.line + 1 by omega]
  · -- no shown line holds a newline: the text's lines hold none, and neither does the gutter
    have hlines : ∀ l ∈ source.splitOn '\n', Glyph.scalar '\n' ∉ l :=
      fun _ hl => GlyphText.not_mem_of_mem_splitOn hl
    have hblank : '\n' ∉ " ".toList := by simp
    have hmark : '\n' ∉ ">".toList := by simp
    intro p hp
    rw [List.mem_append, List.mem_cons, List.mem_cons] at hp
    rcases hp with hp | hp | hp | hp
    · obtain ⟨i, -, hi⟩ := List.mem_map.1 hp
      exact hi ▸ Snippet.not_mem_numbered hblank hlines
    · exact hp ▸ Snippet.not_mem_numbered hmark hlines
    · exact hp ▸ Snippet.not_mem_caretLine _
    · obtain ⟨i, -, hi⟩ := List.mem_map.1 hp
      exact hi ▸ Snippet.not_mem_numbered hblank hlines

/-! ## What a snippet shows -/

namespace Snippet

/-- What the snippet of a text around a location shows: the numbered lines from two before the
located line to two after it, clamped to the text, with the caret line right after the located
one; every line's text cut to eighty glyphs; the column's glyph of the located line at the text
start plus the column of the marked line; the caret at the gutter plus the column; and the
caret under that glyph exactly when the line number has at most four digits. -/
structure Shows (source : GlyphText) (loc : Location) : Prop where
  lines_eq : (snippet source loc).splitOn '\n' =
    (List.range' (max 1 (loc.line - 2)) (loc.line - max 1 (loc.line - 2))).map
        (numbered (source.splitOn '\n') " ") ++
      numbered (source.splitOn '\n') ">" loc.line :: caretLine loc.column ::
      (List.range' (loc.line + 1) (min (source.splitOn '\n').length (loc.line + 2) - loc.line)).map
        (numbered (source.splitOn '\n') " ")
  text_fits : ∀ i, (fit defaultWidth (dropReturns ((source.splitOn '\n').getD (i - 1) []))).length ≤ 80
  column_at_textStart : (numbered (source.splitOn '\n') ">" loc.line)[textStart loc.line + loc.column]? =
    (dropReturns ((source.splitOn '\n').getD (loc.line - 1) []))[loc.column]?
  caret_at_gutter : (caretLine loc.column).idxOf (.scalar '^') = gutter + loc.column
  caret_on_column_iff : gutter + loc.column = textStart loc.line + loc.column ↔ loc.line < 10000

end Snippet

/-- The snippet of a text around a location: none when the text is empty or ends before the
located line; otherwise, for a column within the first 77 glyphs, what `Snippet.Shows` says. -/
theorem snippet_window_and_caret (source : GlyphText) (loc : Location) :
    (source = [] ∨ (source.splitOn '\n').length < loc.line → snippet source loc = []) ∧
      (source ≠ [] → 1 ≤ loc.line → loc.line ≤ (source.splitOn '\n').length → loc.column ≤ 76 →
        Snippet.Shows source loc) := by
  refine ⟨snippet_eq_nil, fun hsource hline hlast hcolumn => ?_⟩
  have hmarker : (">" : String).length = 1 := by decide
  exact
    { lines_eq := snippet_splitOn hsource hline hlast
      text_fits := fun _ => Snippet.length_fit_le _
      column_at_textStart := Snippet.numbered_getElem?_textStart _ _ hmarker hcolumn
      caret_at_gutter := Snippet.idxOf_caretLine _
      caret_on_column_iff := by
        rw [Nat.add_right_cancel_iff]
        exact Snippet.gutter_eq_textStart_iff _ }

/-- Three short lines, the second ending in a carriage return, around its last column. -/
theorem threeLines_shows :
    GlyphText.ofString "a\nbc\r\nd" ≠ [] ∧ 1 ≤ 2 ∧ 2 ≤ ((GlyphText.ofString "a\nbc\r\nd").splitOn '\n').length ∧
      2 ≤ 76 ∧ Snippet.Shows (GlyphText.ofString "a\nbc\r\nd") { line := 2, column := 2 } :=
  ⟨by decide, by decide, by decide, by decide,
    (snippet_window_and_caret _ _).2 (by decide) (by decide) (by decide) (by decide)⟩

/-! ## Past four digits -/

/-- A text of ten thousand lines: 9999 empty ones, then `x`. -/
def tenThousandLines : GlyphText := List.replicate 9999 (.scalar '\n') ++ [.scalar 'x']

/-- On line 10000 the number takes five places, so the text of the marked line starts one place
further right than on the lines before, but the caret stays at the gutter: it stands under the
blank before `x`, not under `x`, the glyph at column 0. -/
theorem tenThousandLines_caret_misplaced :
    (snippet tenThousandLines { line := 10000, column := 0 }).splitOn '\n' =
      [GlyphText.ofString "  9998 | ", GlyphText.ofString "  9999 | ",
        GlyphText.ofString "> 10000 | x", GlyphText.ofString "         ^"] := by
  have hlines : tenThousandLines.splitOn '\n' = List.replicate 9999 [] ++ [[.scalar 'x']] :=
    GlyphText.splitOn_replicate_append '\n' 9999 [.scalar 'x']
  have hne : tenThousandLines ≠ [] := List.append_ne_nil_of_right_ne_nil _ (List.cons_ne_nil _ _)
  have hlength : (List.replicate 9999 ([] : GlyphText) ++ [[Glyph.scalar 'x']]).length = 10000 := by
    rw [List.length_append, List.length_replicate]
    rfl
  -- the empty lines are looked up without building the list of them
  have hempty : ∀ i, i < 9999 →
      (List.replicate 9999 ([] : GlyphText) ++ [[Glyph.scalar 'x']]).getD i [] = [] := by
    intro i hi
    rw [List.getD_eq_getElem?_getD, List.getElem?_append_left (by rw [List.length_replicate]; exact hi),
      List.getElem?_replicate, if_pos hi]
    rfl
  have hlast : (List.replicate 9999 ([] : GlyphText) ++ [[Glyph.scalar 'x']]).getD 9999 [] =
      [Glyph.scalar 'x'] := by
    rw [List.getD_eq_getElem?_getD, List.getElem?_append_right (Nat.le_of_eq List.length_replicate),
      List.length_replicate]
    rfl
  rw [snippet_splitOn hne (by decide) (Nat.le_of_eq (by rw [hlines, hlength])), hlines,
    hlength]
  simp only [show max 1 (10000 - 2) = 9998 by decide, show 10000 - 9998 = 2 by decide,
    show min 10000 (10000 + 2) - 10000 = 0 by decide, List.range'_succ, List.range'_zero,
    List.map_cons, List.map_nil, Snippet.numbered, hempty 9997 (by decide),
    hempty 9998 (by decide), show 10000 - 1 = 9999 by decide, hlast]
  decide

end ScriptGate
