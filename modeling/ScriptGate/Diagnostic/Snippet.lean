import ScriptGate.Diagnostic.Location
import ScriptGate.Text.Glyph

/-!
# Snippets: the lines around a location

A snippet shows the lines of a text around a location, `context` lines before
and after it, clamped to the text.  Lines are the pieces between newlines;
carriage returns at the end of a line are dropped, and a line longer than the
width keeps its first `width - 3` glyphs and ends with `...` (a width below 3
cuts from the end instead, as a negative cut does).  Each line is written as a
marker, its number right-aligned in four places, a bar and its text; the marker
is `>` on the located line, which is followed by a caret under its column.

A text that is empty, or that ends before the located line, has no snippet.
-/

namespace ScriptGate

namespace Snippet

/-- The lines shown before and after the located one. -/
def defaultContext : Int := 2

/-- The widest line shown whole. -/
def defaultWidth : Int := 80

/-- The width of what stands before a line's text: a marker, a space, four places
for the number, a space, a bar and a space. -/
def gutter : Nat := 9

/-- The first `k` glyphs of a line, or all but the last `-k` when `k` is negative. -/
def keep (k : Int) (t : GlyphText) : GlyphText :=
  if 0 ≤ k then t.take k.toNat else t.take (t.length - (-k).toNat)

/-- A line cut to a width, marked with `...` when it was cut. -/
def fit (width : Int) (t : GlyphText) : GlyphText :=
  if width < t.length then keep (width - 3) t ++ GlyphText.ofString "..." else t

/-- A line without the carriage returns that end it. -/
def dropReturns (t : GlyphText) : GlyphText :=
  (t.reverse.dropWhile (· == .scalar '\r')).reverse

/-- A number right-aligned in four places. -/
def number (n : Nat) : String :=
  let s := toString n
  String.ofList (List.replicate (4 - s.length) ' ') ++ s

/-- One shown line, and the caret line after it when it is the located one. -/
def row (width : Int) (located : Nat) (column : Nat) (index : Nat) (t : GlyphText) :
    List GlyphText :=
  let marker := if index = located then ">" else " "
  let text := GlyphText.ofString (marker ++ " " ++ number (index + 1) ++ " | ") ++
    fit width (dropReturns t)
  if index = located then
    [text, GlyphText.ofString (String.ofList (List.replicate (gutter + column) ' ') ++ "^")]
  else [text]

end Snippet

/-- The snippet of a text around a location, with `context` lines on each side and lines
cut to `width`. -/
def snippetWith (context width : Int) (source : GlyphText) (loc : Location) : GlyphText :=
  let lines := source.splitOn '\n'
  let located := loc.line - 1
  if source.isEmpty || lines.length ≤ located then []
  else
    let first := max 0 ((located : Int) - context)
    let last := min ((lines.length : Int) - 1) ((located : Int) + context)
    let shown := ((List.range lines.length).zip lines).filter fun (i, _) =>
      first ≤ (i : Int) && (i : Int) ≤ last
    let rows := shown.flatMap fun (i, t) => Snippet.row width located loc.column i t
    (rows.intersperse (GlyphText.ofString "\n")).flatten

/-- The snippet of a text around a location: two lines on each side, lines cut to 80. -/
def snippet (source : GlyphText) (loc : Location) : GlyphText :=
  snippetWith Snippet.defaultContext Snippet.defaultWidth source loc

end ScriptGate
