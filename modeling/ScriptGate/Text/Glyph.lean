/-!
# Glyphs: the code points of a source text

A source text arrives as a sequence of code points in which a UTF-16
surrogate may stand alone.  A *glyph* is one such code point: a Unicode scalar
value, or a surrogate without a partner.  Columns count glyphs, so a lone
surrogate is one column wide.

The syntax reads a text through `Glyph.toChar`, which reads every lone
surrogate as `?`: the character that takes its place when the text is written
as UTF-8.  Snippets show the glyphs themselves, so a text keeps them.
-/

namespace ScriptGate

/-- A code point of a source text. -/
inductive Glyph where
  /-- A Unicode scalar value. -/
  | scalar (c : Char)
  /-- A UTF-16 surrogate (`0xD800` to `0xDFFF`) without a partner. -/
  | surrogate (unit : Nat)
deriving DecidableEq, Repr, Inhabited

namespace Glyph

/-- The character the syntax reads: a lone surrogate reads as `?`. -/
def toChar : Glyph → Char
  | scalar c => c
  | surrogate _ => '?'

/-- The code point of a glyph. -/
def code : Glyph → Nat
  | scalar c => c.toNat
  | surrogate u => u

@[simp] theorem toChar_scalar (c : Char) : (scalar c).toChar = c := rfl

end Glyph

/-- A text that may hold lone surrogates. -/
abbrev GlyphText := List Glyph

namespace GlyphText

/-- The glyphs of a string, every one a scalar value. -/
def ofString (s : String) : GlyphText := s.toList.map Glyph.scalar

/-- The characters the syntax reads. -/
def chars (t : GlyphText) : List Char := t.map Glyph.toChar

/-- The text as a string, a lone surrogate read as `?`. -/
def toLossyString (t : GlyphText) : String := String.ofList t.chars

/-- Whether every glyph is a scalar value. -/
def isScalar (t : GlyphText) : Bool :=
  t.all fun g => match g with
    | .scalar _ => true
    | .surrogate _ => false

theorem chars_ofString (s : String) : (ofString s).chars = s.toList := by
  simp [chars, ofString, Function.comp_def]

/-- Splits a text at every glyph equal to `sep`, keeping empty pieces. -/
def splitOn (sep : Char) : GlyphText → List GlyphText
  | [] => [[]]
  | g :: rest =>
    if g = .scalar sep then [] :: splitOn sep rest
    else match splitOn sep rest with
      | [] => [[g]]
      | first :: others => (g :: first) :: others

end GlyphText

end ScriptGate
