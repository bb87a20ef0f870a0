import ScriptGate.Proofs.Syntax.Reading
import ScriptGate.Proofs.Text.Utf8
import ScriptGate.Diagnostic.Snippet
import Mathlib.Data.List.Induction

/-!
# Where a character offset stands

A reading places a span and an error by the point the syntax tree reports there:
a byte offset in the UTF-8 of the text, the row (the line feeds before it) and the
byte column (the bytes since the last of them).  `Context.position` turns a point
into a line and a column.  The column counts characters, by decoding the bytes of
the row before the point, except in a text of ASCII, where the byte column is
kept.  `Context.positionOfByte` finds the row of a byte offset by a binary search
(`Context.lineIndex`) over the line starts of the bytes (`Context.starts`).  This
module says what both find.

* The line starts of bytes are `0` and the offset after each line feed
  (`starts_toList`, with `breaks`), in increasing order.  A binary search over
  an increasing array whose first entry is at most the offset returns the last
  entry at most the offset (`lineIndex_eq`).  So the row of an offset is the
  number of line feeds before it, and its line starts after the last of them
  (`lineIndex_starts`).
* A character's bytes hold the byte of a line feed only if it is one, so the
  line feeds of the bytes before a character are those of the characters before
  it (`Utf8.count_encode`, `lineStart_encode`).  The point at a character, walked
  one character at a time, is that row and byte column (`foldl_step`).
* The bytes of a row before a character decode to the characters of the row
  before it (`Utf8.decodedLength_encode`).  Bytes of ASCII decode one to one, so
  the shortcut agrees with decoding wherever both apply
  (`decodedColumn_of_ascii`).

So a place is on the line after as many line feeds as stand before it, at the
column counted in characters from where the last of them ends
(`positionOfByte_make`, `place_make`).  Only a line feed starts a line; a
carriage return, U+2028 and U+2029 are counted as any other character.

A place read this way indexes the text as its lines do: line `line` of the text
split at its line feeds, read from column `column`, is the text from the offset
up to the next line feed (`splitOn_getElem?_count`, `place_indexes_text`).  So
the glyph that a snippet shows at the place's line and column is the glyph at
the offset, a lone surrogate counting as one column as it does in the text.
Every error of a reading is given at such a place (`readSource_errors_placed`).
-/

namespace ScriptGate

/-- The index just after the last `sep` of a list, or `0` when it holds none. -/
def lineStart {α : Type} [DecidableEq α] (sep : α) (p : List α) : Nat :=
  p.length - (p.reverse.takeWhile (· ≠ sep)).length

/-- The offsets just after each `sep` of `xs`, whose first entry stands at `o`. -/
def breaks {α : Type} [DecidableEq α] (sep : α) (o : Nat) : List α → List Nat
  | [] => []
  | x :: xs => if x = sep then (o + 1) :: breaks sep (o + 1) xs else breaks sep (o + 1) xs

/-! ## Separators in a list -/

section Breaks

variable {α : Type} [DecidableEq α] {sep : α}

theorem lt_of_mem_breaks {o x : Nat} {xs : List α} (h : x ∈ breaks sep o xs) : o < x := by
  induction xs generalizing o with
  | nil => simp [breaks] at h
  | cons c cs ih =>
    unfold breaks at h
    split at h
    · rcases List.mem_cons.1 h with rfl | h
      · omega
      · have := ih h; omega
    · have := ih h; omega

theorem breaks_pairwise (o : Nat) (xs : List α) : (breaks sep o xs).Pairwise (· < ·) := by
  induction xs generalizing o with
  | nil => exact List.Pairwise.nil
  | cons c cs ih =>
    unfold breaks
    split
    · exact List.Pairwise.cons (fun x hx => lt_of_mem_breaks hx) (ih (o + 1))
    · exact ih (o + 1)

theorem length_breaks (o : Nat) (xs : List α) : (breaks sep o xs).length = xs.count sep := by
  induction xs generalizing o with
  | nil => rfl
  | cons c cs ih =>
    unfold breaks
    split <;> simp_all

/-- The starts after the separators among the first `n` entries are those at most `n`
past the list's start. -/
theorem breaks_filter_le (o n : Nat) (xs : List α) :
    (breaks sep o xs).filter (· ≤ o + n) = breaks sep o (xs.take n) := by
  induction xs generalizing o n with
  | nil => simp [breaks]
  | cons c cs ih =>
    cases n with
    | zero =>
      -- every start lies past the list's start
      rw [List.filter_eq_nil_iff.2 fun x hx => by have := lt_of_mem_breaks hx; simp; omega]
      rfl
    | succ n =>
      have hih := ih (o + 1) n
      rw [show o + 1 + n = o + (n + 1) by omega] at hih
      unfold breaks
      split <;> simp_all

theorem breaks_append (o : Nat) (p q : List α) :
    breaks sep o (p ++ q) = breaks sep o p ++ breaks sep (o + p.length) q := by
  induction p generalizing o with
  | nil => rfl
  | cons c p ih =>
    simp only [List.cons_append, breaks, List.length_cons, ih (o + 1),
      show o + 1 + p.length = o + (p.length + 1) by omega]
    split <;> rfl

end Breaks

theorem lineStart_append_singleton {α : Type} [DecidableEq α] (sep : α) (p : List α) (c : α) :
    lineStart sep (p ++ [c]) = if c = sep then p.length + 1 else lineStart sep p := by
  unfold lineStart
  by_cases hc : c = sep <;> simp [hc]

theorem lineStart_le_length {α : Type} [DecidableEq α] (sep : α) (p : List α) :
    lineStart sep p ≤ p.length := Nat.sub_le _ _

/-- Read from the front: a list's last line starts one further in than that of its
tail, unless the tail holds no `sep`. -/
theorem lineStart_cons {α : Type} [DecidableEq α] (sep g : α) (xs : List α) :
    lineStart sep (g :: xs) = if sep ∈ xs then lineStart sep xs + 1 else if g = sep then 1 else 0 := by
  -- induction from the end of the tail, through its reverse
  rw [← List.reverse_reverse xs]
  generalize xs.reverse = q
  induction q with
  | nil => by_cases hg : g = sep <;> simp [lineStart, hg]
  | cons z q ih =>
    rw [List.reverse_cons, ← List.cons_append, lineStart_append_singleton,
      lineStart_append_singleton, ih]
    by_cases hz : z = sep
    · simp [hz]
    · have : sep ∈ q.reverse ++ [z] ↔ sep ∈ q.reverse := by simp [Ne.symm hz]
      simp [hz, this]

theorem lineStart_eq_zero {α : Type} [DecidableEq α] {sep : α} {xs : List α} (h : sep ∉ xs) :
    lineStart sep xs = 0 := by
  induction xs with
  | nil => rfl
  | cons g xs ih =>
    rw [lineStart_cons]
    simp only [List.mem_cons, not_or] at h
    simp [h.2, Ne.symm h.1]

/-- A stretch without `sep` leaves the last line's start where it was. -/
theorem lineStart_append_of_not_mem {α : Type} [DecidableEq α] {sep : α} {q : List α}
    (h : sep ∉ q) (p : List α) : lineStart sep (p ++ q) = lineStart sep p := by
  induction q using List.reverseRecOn with
  | nil => simp
  | append_singleton q x ih =>
    rw [← List.append_assoc, lineStart_append_singleton, if_neg fun hx => h (by simp [hx]),
      ih fun hq => h (by simp [hq])]

/-- The last start after a `sep` of `p`, or `0`, is where the last line of `p` starts. -/
theorem getLast?_breaks {α : Type} [DecidableEq α] (sep : α) (p : List α) :
    ((breaks sep 0 p).getLast?).getD 0 = lineStart sep p := by
  -- induction from the end of the list, through its reverse
  rw [← List.reverse_reverse p]
  generalize p.reverse = q
  induction q with
  | nil => rfl
  | cons c q ih =>
    rw [List.reverse_cons, breaks_append, lineStart_append_singleton]
    by_cases hc : c = sep
    · simp [breaks, hc]
    · simpa [breaks, hc] using ih

/-! ## The line starts of bytes -/

/-- The fold that finds the line starts pushes the offset after each line feed onto what it
holds. -/
theorem foldl_starts (bs : List UInt8) (acc : Array Nat) (i : Nat) :
    (bs.foldl (fun (acc, i) b => (if b = 10 then acc.push (i + 1) else acc, i + 1))
      (acc, i)).1.toList = acc.toList ++ breaks 10 i bs := by
  induction bs generalizing acc i with
  | nil => simp [breaks]
  | cons b bs ih =>
    simp only [List.foldl_cons]
    rw [ih]
    by_cases hb : b = 10 <;> simp [breaks, hb]

/-- The line starts of bytes: `0`, and the offset after each line feed. -/
theorem starts_toList (bytes : Array UInt8) :
    (Context.starts bytes).toList = 0 :: breaks 10 0 bytes.toList := by
  rw [Context.starts, ← Array.foldl_toList, foldl_starts]
  rfl

theorem starts_pairwise (bytes : Array UInt8) :
    (Context.starts bytes).toList.Pairwise (· ≤ ·) := by
  rw [starts_toList]
  refine List.Pairwise.cons (fun x _ => Nat.zero_le x) ?_
  exact (breaks_pairwise 0 bytes.toList).imp Nat.le_of_lt

/-- The starts at most `o` are `0` and the starts of the first `o` bytes. -/
theorem starts_filter_le (bytes : Array UInt8) (o : Nat) :
    (Context.starts bytes).toList.filter (· ≤ o) = 0 :: breaks 10 0 (bytes.toList.take o) := by
  rw [starts_toList, List.filter_cons_of_pos (by simp)]
  simpa using breaks_filter_le 0 o bytes.toList

/-! ## The binary search -/

/-- In an increasing list, the entries at most `i` are the first ones, as many as
there are such entries. -/
theorem getElem_le_iff_lt_length_filter {l : List Nat} (hs : l.Pairwise (· ≤ ·)) (i : Nat)
    {j : Nat} (hj : j < l.length) : l[j] ≤ i ↔ j < (l.filter (· ≤ i)).length := by
  induction l generalizing j with
  | nil => simp at hj
  | cons x xs ih =>
    rw [List.pairwise_cons] at hs
    by_cases hx : x ≤ i
    · cases j with
      | zero => simp [hx]
      | succ j =>
        simp only [List.getElem_cons_succ, List.filter_cons, hx, decide_true, if_true,
          List.length_cons]
        rw [ih hs.2 (by simpa using hj)]
        omega
    · -- every entry is at least the first, which is past `i`
      have hnone : xs.filter (· ≤ i) = [] :=
        List.filter_eq_nil_iff.2 fun y hy => by have := hs.1 y hy; simp; omega
      have hge : x ≤ (x :: xs)[j] := by
        cases j with
        | zero => simp
        | succ j => exact hs.1 _ (List.getElem_mem _)
      simp only [List.filter_cons, hx, decide_false, Bool.false_eq_true, if_false, hnone,
        List.length_nil, Nat.not_lt_zero, iff_false]
      omega

/-- The search keeps `lo` among the entries at most `i` and `hi` past them, and ends on
the last such entry. -/
theorem lineIndex_eq {a : Array Nat} {i : Nat} (hs : a.toList.Pairwise (· ≤ ·)) {lo hi : Nat}
    (hlo : lo < (a.toList.filter (· ≤ i)).length)
    (hhi : (a.toList.filter (· ≤ i)).length ≤ hi) (hsize : hi ≤ a.size) :
    Context.lineIndex a i lo hi = (a.toList.filter (· ≤ i)).length - 1 := by
  fun_induction Context.lineIndex a i lo hi with
  | case1 lo hi hlt mid hmid ih =>
    have hmidlt : mid < a.size := by omega
    rw [Array.getElem?_eq_getElem hmidlt, Option.getD_some] at hmid
    have := (getElem_le_iff_lt_length_filter hs i (by simpa using hmidlt)).1 (by simpa using hmid)
    exact ih this hhi hsize
  | case2 lo hi hlt mid hmid ih =>
    have hmidlt : mid < a.size := by omega
    rw [Array.getElem?_eq_getElem hmidlt, Option.getD_some] at hmid
    have : ¬ mid < (a.toList.filter (· ≤ i)).length := fun h => by
      have hle := (getElem_le_iff_lt_length_filter hs i (by simpa using hmidlt)).2 h
      rw [Array.getElem_toList] at hle
      exact hmid hle
    exact ih hlo (by omega) (by omega)
  | case3 lo hi hge => omega

/-- The search over the line starts of bytes finds the row of an offset, the line feeds
before it; the line starts just after the last of them. -/
theorem lineIndex_starts (bytes : Array UInt8) (o : Nat) :
    Context.lineIndex (Context.starts bytes) o 0 (Context.starts bytes).size =
        (bytes.toList.take o).count 10 ∧
      (Context.starts bytes)[(bytes.toList.take o).count 10]? =
        some (lineStart 10 (bytes.toList.take o)) := by
  have hfilter := starts_filter_le bytes o
  have hm : ((Context.starts bytes).toList.filter (· ≤ o)).length =
      (breaks 10 0 (bytes.toList.take o)).length + 1 := by rw [hfilter]; rfl
  have hsize : ((Context.starts bytes).toList.filter (· ≤ o)).length ≤ (Context.starts bytes).size := by
    rw [← Array.length_toList]
    exact List.length_filter_le _ _
  rw [← length_breaks 0]
  refine ⟨?_, ?_⟩
  · rw [lineIndex_eq (starts_pairwise bytes) (by omega) hsize (Nat.le_refl _), hm]
    rfl
  -- the starts of the first `o` bytes begin the starts of all of them, and the search ends
  -- on the last of them
  have hsplit := congrArg (breaks 10 0) (List.take_append_drop o bytes.toList)
  rw [breaks_append] at hsplit
  rw [← Array.getElem?_toList, starts_toList, ← hsplit, ← List.cons_append,
    List.getElem?_append_left (by simp), ← getLast?_breaks]
  generalize breaks 10 0 (bytes.toList.take o) = b
  rw [show b.length = (0 :: b).length - 1 by simp, ← List.getLast?_eq_getElem?,
    List.getLast?_cons]

/-! ## Line feeds in UTF-8 -/

/-- The bytes before a character are the UTF-8 of the characters before it. -/
theorem take_encode (cs : List Char) (c : Nat) :
    (Utf8.encode cs).take (Utf8.encode (cs.take c)).length = Utf8.encode (cs.take c) := by
  calc (Utf8.encode cs).take (Utf8.encode (cs.take c)).length
      = (Utf8.encode (cs.take c) ++ Utf8.encode (cs.drop c)).take
          (Utf8.encode (cs.take c)).length := by rw [← Utf8.encode_append, List.take_append_drop]
    _ = Utf8.encode (cs.take c) := List.take_left

/-- The last line of the UTF-8 of characters starts at the bytes of the characters before
their last line. -/
theorem lineStart_encode (cs : List Char) :
    lineStart 10 (Utf8.encode cs) = (Utf8.encode (cs.take (lineStart '\n' cs))).length := by
  induction cs using List.reverseRecOn with
  | nil => rfl
  | append_singleton cs c ih =>
    rw [Utf8.encode_append, lineStart_append_singleton '\n']
    by_cases hc : c = '\n'
    · subst hc
      rw [if_pos rfl, show Utf8.encode ['\n'] = [10] from rfl, lineStart_append_singleton,
        if_pos rfl, List.take_of_length_le (by simp)]
      simp [show '\n'.utf8Size = 1 from rfl]
    · have hnot : (10 : UInt8) ∉ Utf8.encode [c] := by
        simpa [Utf8.newline_mem_utf8EncodeChar_iff] using hc
      rw [if_neg hc, lineStart_append_of_not_mem hnot, ih,
        List.take_append_of_le_length (lineStart_le_length _ _)]

/-! ## The point at a character -/

/-- Walking characters from the start of a text reaches the point after their bytes: the
row is the line feeds among them, the byte column the bytes of their last line. -/
theorem foldl_step (cs : List Char) :
    cs.foldl Point.step default =
      ⟨(Utf8.encode cs).length, cs.count '\n',
        (Utf8.encode (cs.drop (lineStart '\n' cs))).length⟩ := by
  induction cs using List.reverseRecOn with
  | nil => rfl
  | append_singleton cs c ih =>
    rw [List.foldl_append, ih, List.foldl_cons, List.foldl_nil, Point.step,
      lineStart_append_singleton]
    by_cases hc : c = '\n'
    · subst hc
      simp [show Utf8.encode ['\n'] = [10] from rfl]
    · have hle := lineStart_le_length '\n' cs
      simp [hc, List.drop_append_of_le_length hle, String.length_utf8EncodeChar]

theorem point_make (text : Array Char) (r : Repair) {c : Nat} (hc : c ≤ text.size) :
    (Context.make text r).point c = (text.toList.take c).foldl Point.step default := by
  simp [Context.point, Context.make, Context.pointsOf, List.getElem?_scanl, hc]

/-! ## Positions -/

section Positions

variable (text : Array Char) (r : Repair)

theorem bytes_make : (Context.make text r).bytes.toList = Utf8.encode text.toList := rfl

theorem byteStarts_make :
    (Context.make text r).byteStarts = Context.starts (Context.make text r).bytes := rfl

/-- The decoded column of a point: the bytes of its row before it, decoded. -/
theorem decodedColumn_make (row col : Nat) :
    (Context.make text r).decodedColumn row col =
      Utf8.decodedLength .idle
        (((Utf8.encode text.toList).drop ((Context.make text r).byteStarts[row]?.getD 0)).take col) := by
  simp only [Context.decodedColumn, Array.toList_extract, List.extract, bytes_make]
  congr 2
  omega

/-- In a text of ASCII, decoding a row's bytes before a point gives the byte column. -/
theorem decodedColumn_of_ascii {row col : Nat} (hascii : (Context.make text r).ascii = true)
    (hin : (Context.make text r).byteStarts[row]?.getD 0 + col ≤ (Context.make text r).bytes.size) :
    (Context.make text r).decodedColumn row col = col := by
  have hall : ∀ b ∈ Utf8.encode text.toList, b.toNat < 0x80 := by
    intro b hb
    have := (Array.all_eq_true_iff_forall_mem.1 hascii) b (by simpa [Context.make] using hb)
    simpa [UInt8.lt_iff_toNat_lt] using this
  rw [decodedColumn_make, Utf8.decodedLength_ascii fun b hb =>
    hall b (List.mem_of_mem_drop (List.mem_of_mem_take hb))]
  have hsize : (Context.make text r).bytes.size = (Utf8.encode text.toList).length := by
    rw [← Array.length_toList, bytes_make]
  simp only [List.length_take, List.length_drop]
  omega

variable {text r} {c : Nat}

/-- The line starts of the bytes hold, at the row of a character, the bytes before its
line. -/
theorem byteStarts_row :
    (Context.make text r).byteStarts[(text.toList.take c).count '\n']? =
      some (Utf8.encode ((text.toList.take c).take (lineStart '\n' (text.toList.take c)))).length := by
  have h := (lineIndex_starts (Context.make text r).bytes (Utf8.encode (text.toList.take c)).length).2
  rwa [bytes_make, take_encode, Utf8.count_encode, lineStart_encode, ← byteStarts_make] at h

/-- The search finds the row of a character: the line feeds before it. -/
theorem lineIndex_make :
    Context.lineIndex (Context.make text r).byteStarts (Utf8.encode (text.toList.take c)).length 0
        (Context.make text r).byteStarts.size = (text.toList.take c).count '\n' := by
  rw [byteStarts_make, (lineIndex_starts _ _).1, bytes_make, take_encode, Utf8.count_encode]

variable (hc : c ≤ text.size)
include hc

/-- At a character, the row and byte column of the point decode to the line and the column
counted in characters. -/
theorem position_make :
    (Context.make text r).position ((text.toList.take c).count '\n')
        (Utf8.encode ((text.toList.take c).drop (lineStart '\n' (text.toList.take c)))).length =
      (1 + (text.toList.take c).count '\n', c - lineStart '\n' (text.toList.take c)) := by
  set cs := text.toList.take c with hcs
  set ls := lineStart '\n' cs with hls
  have hrow : (Context.make text r).byteStarts[cs.count '\n']? =
      some (Utf8.encode (cs.take ls)).length := byteStarts_row
  have hlen : cs.length = c := by simp [hcs, hc]
  -- the row's bytes before the character are the UTF-8 of the characters of its line
  have hsplit : Utf8.encode text.toList =
      Utf8.encode (cs.take ls) ++ (Utf8.encode (cs.drop ls) ++ Utf8.encode (text.toList.drop c)) := by
    rw [← Utf8.encode_append, ← Utf8.encode_append, ← List.append_assoc, List.take_append_drop,
      hcs, List.take_append_drop]
  have hdecoded : (Context.make text r).decodedColumn (cs.count '\n') (Utf8.encode (cs.drop ls)).length =
      c - ls := by
    rw [decodedColumn_make, hrow, Option.getD_some, hsplit, List.drop_left, List.take_left,
      Utf8.decodedLength_encode, List.length_drop, hlen]
  have hsize : cs.count '\n' < (Context.make text r).byteStarts.size := by
    rcases Array.getElem?_eq_some_iff.1 hrow with ⟨h, -⟩
    exact h
  unfold Context.position
  split
  · -- the shortcut keeps the byte column, which decoding gives back in a text of ASCII
    rename_i hshort
    have hascii : (Context.make text r).ascii = true := by
      rcases Bool.or_eq_true_iff.1 hshort with h | h
      · exact h
      · exact absurd h (by simpa using hsize)
    have hin : (Context.make text r).byteStarts[cs.count '\n']?.getD 0 +
        (Utf8.encode (cs.drop ls)).length ≤ (Context.make text r).bytes.size := by
      rw [hrow, Option.getD_some, ← Array.length_toList, bytes_make, hsplit]
      simp
    rw [← hdecoded, decodedColumn_of_ascii text r hascii hin, Nat.add_comm]
  · rw [hdecoded, Nat.add_comm]

/-- A byte offset at a character is placed on the line after as many line feeds as stand
before the character, at the column counted in characters from where the last of them
ends. -/
theorem positionOfByte_make :
    (Context.make text r).positionOfByte (Utf8.encode (text.toList.take c)).length =
      (1 + (text.toList.take c).count '\n', c - lineStart '\n' (text.toList.take c)) := by
  have hbytes : (Utf8.encode (text.toList.take c)).length =
      (Utf8.encode ((text.toList.take c).take (lineStart '\n' (text.toList.take c)))).length +
        (Utf8.encode ((text.toList.take c).drop (lineStart '\n' (text.toList.take c)))).length := by
    rw [← List.length_append, ← Utf8.encode_append, List.take_append_drop]
  unfold Context.positionOfByte
  rw [lineIndex_make]
  dsimp only
  rw [byteStarts_row, Option.getD_some, hbytes, Nat.add_sub_cancel_left]
  exact position_make hc

/-- The point at a character carries the byte offset of the character, its row and its
byte column. -/
theorem point_eq :
    (Context.make text r).point c =
      ⟨(Utf8.encode (text.toList.take c)).length, (text.toList.take c).count '\n',
        (Utf8.encode ((text.toList.take c).drop (lineStart '\n' (text.toList.take c)))).length⟩ := by
  rw [point_make text r hc, foldl_step]

theorem place_make :
    (Context.make text r).place c =
      ⟨c, 1 + (text.toList.take c).count '\n', c - lineStart '\n' (text.toList.take c)⟩ := by
  simp only [Context.place, point_eq hc, position_make hc]

theorem bytePlace_make :
    (Context.make text r).bytePlace c =
      ⟨c, 1 + (text.toList.take c).count '\n', c - lineStart '\n' (text.toList.take c)⟩ := by
  simp only [Context.bytePlace, point_eq hc, positionOfByte_make hc]

end Positions

/-! ## The lines of a text -/

/-- The piece of a text between its `k`-th line feed and the next, where `k` is the
number of line feeds before an offset, is the last line of the text before the offset
followed by the text after it up to the next line feed. -/
theorem splitOn_getElem?_count (sep : Char) (t : GlyphText) (c : Nat) (hc : c ≤ t.length) :
    (t.splitOn sep)[(t.take c).count (.scalar sep)]? =
      some ((t.take c).drop (lineStart (.scalar sep) (t.take c)) ++
        (t.drop c).takeWhile (· ≠ .scalar sep)) := by
  induction t generalizing c with
  | nil =>
    simp at hc
    subst hc
    rfl
  | cons g rest ih =>
    cases c with
    | zero =>
      by_cases hg : g = .scalar sep
      · simp [GlyphText.splitOn, hg, lineStart]
      · -- the first piece goes on to the first line feed of the rest
        have hfirst := ih 0 (Nat.zero_le _)
        simp only [List.take_zero, List.count_nil, List.drop_nil, List.drop_zero,
          List.nil_append] at hfirst
        rw [GlyphText.splitOn, if_neg hg]
        cases hsplit : GlyphText.splitOn sep rest with
        | nil => simp [hsplit] at hfirst
        | cons first others =>
          rw [hsplit] at hfirst
          simp only [List.getElem?_cons_zero, Option.some.injEq] at hfirst
          simp [hfirst, hg, lineStart]
    | succ c =>
      have hrest := ih c (by simpa using hc)
      simp only [List.take_succ_cons, List.drop_succ_cons, List.count_cons, beq_iff_eq]
      by_cases hg : g = .scalar sep
      · -- a line feed ends the first piece; the offset lies in a later one
        subst hg
        simp only [GlyphText.splitOn, if_pos, List.getElem?_cons_succ, hrest,
          lineStart_cons, Option.some.injEq]
        by_cases hin : Glyph.scalar sep ∈ rest.take c
        · simp [hin]
        · simp [hin, lineStart_eq_zero hin]
      · rw [GlyphText.splitOn, if_neg hg]
        cases hsplit : GlyphText.splitOn sep rest with
        | nil => simp [hsplit] at hrest
        | cons first others =>
          rw [hsplit] at hrest
          simp only [hg, if_false, Nat.add_zero]
          by_cases hin : Glyph.scalar sep ∈ rest.take c
          · -- the offset lies past the first piece
            have hpos : 0 < (rest.take c).count (.scalar sep) := List.count_pos_iff.2 hin
            obtain ⟨k, hk⟩ : ∃ k, (rest.take c).count (.scalar sep) = k + 1 := ⟨_, (Nat.succ_pred_eq_of_pos hpos).symm⟩
            rw [hk] at hrest ⊢
            simp only [List.getElem?_cons_succ] at hrest ⊢
            rw [hrest, lineStart_cons, if_pos hin]
            rfl
          · -- the offset lies in the first piece
            have hzero : (rest.take c).count (.scalar sep) = 0 := List.count_eq_zero.2 hin
            rw [hzero] at hrest ⊢
            simp only [List.getElem?_cons_zero, Option.some.injEq] at hrest ⊢
            rw [hrest, lineStart_cons, if_neg hin, if_neg hg, lineStart_eq_zero hin]
            rfl

/-! ## Places in a source text -/

/-- Counting and finding a separator through a map that sends exactly the separator to
its image. -/
theorem count_map_of_iff {α β : Type} [DecidableEq α] [DecidableEq β] {f : α → β} {sep : α}
    (hf : ∀ a, f a = f sep ↔ a = sep) (l : List α) : (l.map f).count (f sep) = l.count sep := by
  induction l with
  | nil => rfl
  | cons a l ih => simp [List.count_cons, ih, hf]

theorem lineStart_map_of_iff {α β : Type} [DecidableEq α] [DecidableEq β] {f : α → β} {sep : α}
    (hf : ∀ a, f a = f sep ↔ a = sep) (l : List α) :
    lineStart (f sep) (l.map f) = lineStart sep l := by
  have hpred : ((fun x => decide (x ≠ f sep)) ∘ f) = fun x => decide (x ≠ sep) := by
    funext a
    simp [hf]
  unfold lineStart
  rw [← List.map_reverse, List.takeWhile_map, hpred, List.length_map, List.length_map]

/-- A glyph reads as a line feed exactly when it is one. -/
theorem Glyph.toChar_eq_newline_iff (g : Glyph) : g.toChar = '\n' ↔ g = .scalar '\n' := by
  cases g <;> simp [Glyph.toChar]

/-- A character offset of a source text, its lone surrogates written as `?`: its byte
offset is placed on the line after as many line feeds as stand before it, at the column
counted in glyphs from where the last of them ends.  The point the syntax tree reports there
(rows counted by the line feeds of the bytes) is placed the same, and so are the place and
the byte place of the offset.  In a text of ASCII, decoding a row's bytes gives the byte
column, wherever both apply.  And the line of that number, read from that column, is the
text from the offset up to the next line feed. -/
theorem place_indexes_text (source : GlyphText) (r : Repair) (c : Nat) (hc : c ≤ source.length) :
    let ctx := Context.make source.chars.toArray r
    let o := (Utf8.encode (source.chars.take c)).length
    ctx.positionOfByte o =
        (1 + (source.take c).count (.scalar '\n'), c - lineStart (.scalar '\n') (source.take c)) ∧
      ctx.point c =
        ⟨o, (ctx.bytes.toList.take o).count 10, o - lineStart 10 (ctx.bytes.toList.take o)⟩ ∧
      ctx.position (ctx.point c).row (ctx.point c).column = ctx.positionOfByte o ∧
      ctx.place c = ⟨c, (ctx.positionOfByte o).1, (ctx.positionOfByte o).2⟩ ∧
      ctx.bytePlace c = ctx.place c ∧
      (∀ row col, ctx.ascii = true → row < ctx.byteStarts.size →
        ctx.byteStarts[row]?.getD 0 + col ≤ ctx.bytes.size → ctx.decodedColumn row col = col) ∧
      ∃ line, (source.splitOn '\n')[(ctx.place c).line - 1]? = some line ∧
        line.drop (ctx.place c).column = (source.drop c).takeWhile (· ≠ .scalar '\n') := by
  intro ctx o
  have hf : ∀ g, Glyph.toChar g = Glyph.toChar (.scalar '\n') ↔ g = .scalar '\n' :=
    Glyph.toChar_eq_newline_iff
  have hsize : c ≤ source.chars.toArray.size := by simpa [GlyphText.chars] using hc
  -- the syntax reads the glyphs as characters, and only a line feed reads as one
  have hcount : (source.chars.take c).count '\n' = (source.take c).count (.scalar '\n') := by
    rw [GlyphText.chars, ← List.map_take]
    exact count_map_of_iff hf _
  have hstart : lineStart '\n' (source.chars.take c) = lineStart (.scalar '\n') (source.take c) := by
    rw [GlyphText.chars, ← List.map_take]
    exact lineStart_map_of_iff hf _
  have hbyte := positionOfByte_make (r := r) hsize
  have hplace := place_make (r := r) hsize
  simp only [hcount, hstart] at hbyte hplace
  -- the bytes before the offset are the UTF-8 of the characters before it
  have htake : ctx.bytes.toList.take o = Utf8.encode (source.chars.take c) := by
    simp only [ctx, o, bytes_make, take_encode]
  refine ⟨hbyte, ?_, ?_, ?_, ?_, fun row col hascii _ hin => decodedColumn_of_ascii _ _ hascii hin, ?_⟩
  · rw [point_eq hsize, htake, Utf8.count_encode, lineStart_encode]
    dsimp only
    -- the bytes before the offset split where its line starts
    have hbytes : o = (Utf8.encode ((source.chars.take c).take
          (lineStart '\n' (source.chars.take c)))).length +
        (Utf8.encode ((source.chars.take c).drop (lineStart '\n' (source.chars.take c)))).length := by
      rw [← List.length_append, ← Utf8.encode_append, List.take_append_drop]
    congr 1
    omega
  · rw [point_eq hsize]
    dsimp only
    rw [position_make hsize, ← positionOfByte_make hsize]
  · rw [hplace, hbyte]
  · rw [bytePlace_make hsize, place_make hsize]
  refine ⟨(source.take c).drop (lineStart (.scalar '\n') (source.take c)) ++
    (source.drop c).takeWhile (· ≠ .scalar '\n'), ?_, ?_⟩
  · rw [hplace, Nat.add_sub_cancel_left]
    exact splitOn_getElem?_count '\n' source c hc
  -- the last line before the offset is as long as the column
  have hlen : ((source.take c).drop (lineStart (.scalar '\n') (source.take c))).length =
      c - lineStart (.scalar '\n') (source.take c) := by
    simp [List.length_drop, List.length_take, Nat.min_eq_left hc]
  rw [hplace, ← hlen, List.drop_left]

/-- Every error of a reading stands at the place of an offset of its text. -/
theorem readSource_errors_placed {source : GlyphText} {format : ModuleFormat} {cap : Int}
    {r : SourceReading} (h : readSource source format cap = .ok r) :
    ∀ e ∈ r.errors, ∃ i, e.line = ((Context.make source.chars.toArray {}).place i).line ∧
      e.column = ((Context.make source.chars.toArray {}).place i).column := by
  intro e he
  -- each error is made by `SyntaxError.atChar` at some offset
  have hat : ∀ es : List SyntaxError, (∀ x ∈ es, ∃ msg i,
      x = SyntaxError.atChar (Context.make source.chars.toArray {}) msg i) →
      e ∈ SyntaxError.arrange es cap.toNat → ∃ i,
        e.line = ((Context.make source.chars.toArray {}).place i).line ∧
        e.column = ((Context.make source.chars.toArray {}).place i).column := by
    intro es hes hmem
    obtain ⟨msg, i, rfl⟩ := hes e (SyntaxError.mem_of_mem_arrange hmem)
    exact ⟨i, rfl, rfl⟩
  obtain ⟨-, -, hcases⟩ := readSource_eq_ok h
  rcases hcases with ⟨-, -, herrs⟩ | ⟨-, rd, -, ⟨kind, i, rest, -, -, herrs⟩ | ⟨-, herrs, -⟩⟩
  · rw [herrs] at he
    refine hat _ ?_ he
    intro x hx
    simp only [textErrors, Recovery.Outcome.errors, List.mem_append, List.mem_map] at hx
    rcases hx with (⟨m, -, rfl⟩ | hx) | ⟨i, -, rfl⟩
    · cases m <;> exact ⟨_, _, rfl⟩
    · split at hx
      · simp at hx
      · obtain ⟨i, -, rfl⟩ := List.mem_map.1 hx
        exact ⟨_, _, rfl⟩
    · exact ⟨_, _, rfl⟩
  · rw [herrs] at he
    exact hat _ (by simp) he
  · simp [herrs] at he

/-- A text with a lone surrogate on its first line and a character beyond U+FFFF on its
second. -/
def surrogateText : GlyphText :=
  [Glyph.scalar 'a', .surrogate 0xD800, .scalar '\n', .scalar '😀', .scalar 'd']

/-- A lone surrogate and a character beyond U+FFFF each take one column: the `d` after them
on the second line, at byte 7, stands at column 2. -/
theorem place_past_surrogate :
    4 ≤ surrogateText.length ∧
      let ctx := Context.make surrogateText.chars.toArray {}
      let o := (Utf8.encode (surrogateText.chars.take 4)).length
      ctx.positionOfByte o =
          (1 + (surrogateText.take 4).count (.scalar '\n'),
            4 - lineStart (.scalar '\n') (surrogateText.take 4)) ∧
        ctx.point 4 =
          ⟨o, (ctx.bytes.toList.take o).count 10, o - lineStart 10 (ctx.bytes.toList.take o)⟩ ∧
        ctx.position (ctx.point 4).row (ctx.point 4).column = ctx.positionOfByte o ∧
        ctx.place 4 = ⟨4, (ctx.positionOfByte o).1, (ctx.positionOfByte o).2⟩ ∧
        ctx.bytePlace 4 = ctx.place 4 ∧
        (∀ row col, ctx.ascii = true → row < ctx.byteStarts.size →
          ctx.byteStarts[row]?.getD 0 + col ≤ ctx.bytes.size → ctx.decodedColumn row col = col) ∧
        ∃ line, (surrogateText.splitOn '\n')[(ctx.place 4).line - 1]? = some line ∧
          line.drop (ctx.place 4).column = (surrogateText.drop 4).takeWhile (· ≠ .scalar '\n') :=
  ⟨by decide, place_indexes_text surrogateText {} 4 (by decide)⟩

example : (Context.make surrogateText.chars.toArray {}).place 4 = ⟨4, 2, 1⟩ := by decide +kernel

end ScriptGate
