/-!
# Places and spans in a source text

A *place* is a position between two characters of a source text: the number of
characters before it, its line (counted from 1) and its column (counted from 0).
Only a line feed starts a new line; a carriage return, U+2028 and U+2029 are
ordinary characters for counting, so the column of a place is the number of
characters since the last line feed.  A *span* is the pair of places that
bound a node of the tree, written `[line, column, end_line, end_column]`.

`Place.step` moves a place over one character and `Place.walk` over a list of
them; `walk_append` says that walking a concatenation is walking each part.

The syntax tree reports a position in the UTF-8 bytes of the text instead, as a
`Point`: a byte offset, a row counted by line feeds, and a column counted in
bytes since the last line feed.  `Point.step` moves a point over the bytes of
one character.
-/

namespace ScriptGate

/-- A position between two characters of a source text. -/
structure Place where
  /-- Characters before the place. -/
  offset : Nat
  /-- Line, counted from 1. -/
  line : Nat
  /-- Characters since the last line feed. -/
  column : Nat
deriving Repr, DecidableEq, Inhabited

namespace Place

/-- The place before the first character. -/
def start : Place := ⟨0, 1, 0⟩

/-- The place after the character `c` that follows `p`. -/
def step (p : Place) (c : Char) : Place :=
  if c = '\n' then ⟨p.offset + 1, p.line + 1, 0⟩ else ⟨p.offset + 1, p.line, p.column + 1⟩

/-- The place after the characters `cs` that follow `p`. -/
def walk (p : Place) : List Char → Place
  | [] => p
  | c :: cs => (p.step c).walk cs

@[simp] theorem walk_nil (p : Place) : p.walk [] = p := rfl

@[simp] theorem walk_cons (p : Place) (c : Char) (cs : List Char) :
    p.walk (c :: cs) = (p.step c).walk cs := rfl

theorem walk_append (p : Place) (xs ys : List Char) :
    p.walk (xs ++ ys) = (p.walk xs).walk ys := by
  induction xs generalizing p with
  | nil => rfl
  | cons c cs ih => simp [ih]

@[simp] theorem offset_step (p : Place) (c : Char) : (p.step c).offset = p.offset + 1 := by
  unfold step; split <;> rfl

theorem offset_walk (p : Place) (cs : List Char) : (p.walk cs).offset = p.offset + cs.length := by
  induction cs generalizing p with
  | nil => rfl
  | cons c cs ih => simp [ih]; omega

end Place

/-- A position in the UTF-8 bytes of a text, as the syntax tree reports it. -/
structure Point where
  /-- Bytes before the point. -/
  offset : Nat
  /-- Line feeds before the point. -/
  row : Nat
  /-- Bytes since the last line feed. -/
  column : Nat
deriving Repr, DecidableEq, Inhabited

namespace Point

/-- The point after the bytes of the character `c` that follows `p`. -/
def step (p : Point) (c : Char) : Point :=
  if c = '\n' then ⟨p.offset + 1, p.row + 1, 0⟩
  else ⟨p.offset + c.utf8Size, p.row, p.column + c.utf8Size⟩

end Point

/-- The places that bound a node. -/
structure Span where
  /-- Where the node starts. -/
  start : Place
  /-- Where the node stops. -/
  stop : Place
deriving Repr, DecidableEq, Inhabited

namespace Span

/-- The empty span at a place. -/
def point (p : Place) : Span := ⟨p, p⟩

/-- The span from the start of `a` to the stop of `b`. -/
def join (a b : Span) : Span := ⟨a.start, b.stop⟩

end Span

end ScriptGate
