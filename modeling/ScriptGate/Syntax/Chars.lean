/-!
# Character classes of the syntax

Three classes decide how a text splits into tokens.

* *Blanks* separate tokens and carry nothing: tab, line feed, vertical tab,
  form feed, carriage return, the space separators of Unicode (space, U+00A0,
  U+1680, U+2000 to U+200A, U+202F, U+205F, U+3000), the line and paragraph
  separators U+2028 and U+2029, and the invisible U+FEFF, U+2060 and U+200B.
  The next line U+0085 is no blank: it is a name character.
* *Line spaces* are what the semicolon rule skips while it looks for a line
  break: the spaces of the C library's classification, which leaves out the
  spaces that forbid a line break there (U+00A0, U+2007, U+202F) and the
  invisible characters.
* *Line ends* end a line comment and allow a semicolon to be left out:
  line feed, carriage return, U+2028 and U+2029.  Only the line feed and the
  two separators let a semicolon be left out; see `breaksStatement`.
* *Name characters* make up identifiers: every character that is not a
  control character, a blank, a space separator or one of
  `` : ; ` " ' @ # . , | ^ & < = > + - * / \ % ? ! ~ ( ) [ ] { } ``.
  A name does not start with a digit.
-/

namespace ScriptGate.Chars

/-- The characters of the Unicode White_Space property. -/
def isWhiteSpace (c : Char) : Bool :=
  let n := c.toNat
  (0x09 ≤ n ∧ n ≤ 0x0D) ∨ n = 0x20 ∨ n = 0x85 ∨ n = 0xA0 ∨ n = 0x1680 ∨
  (0x2000 ≤ n ∧ n ≤ 0x200A) ∨ n = 0x2028 ∨ n = 0x2029 ∨ n = 0x202F ∨ n = 0x205F ∨
  n = 0x3000

/-- The characters that splitting a text at its spaces drops: white space and
the information separators U+001C to U+001F. -/
def isSplitSpace (c : Char) : Bool :=
  isWhiteSpace c ∨ (0x1C ≤ c.toNat ∧ c.toNat ≤ 0x1F)

/-- Characters that separate tokens. -/
def isBlank (c : Char) : Bool :=
  (isWhiteSpace c ∧ c.toNat ≠ 0x85) ∨ c.toNat = 0xFEFF ∨ c.toNat = 0x2060 ∨ c.toNat = 0x200B

/-- The spaces that the semicolon rule skips: white space without the next
line and without the spaces that forbid a line break. -/
def isLineSpace (c : Char) : Bool :=
  isWhiteSpace c ∧ c.toNat ≠ 0x85 ∧ c.toNat ≠ 0xA0 ∧ c.toNat ≠ 0x2007 ∧ c.toNat ≠ 0x202F

/-- Characters that end a line comment. -/
def isLineEnd (c : Char) : Bool :=
  c = '\n' ∨ c = '\r' ∨ c.toNat = 0x2028 ∨ c.toNat = 0x2029

/-- Characters that let a statement end without a semicolon. -/
def breaksStatement (c : Char) : Bool :=
  c = '\n' ∨ c.toNat = 0x2028 ∨ c.toNat = 0x2029

/-- Punctuation that never belongs to a name. -/
def isPunctuation (c : Char) : Bool :=
  ":;`\"'@#.,|^&<=>+-*/\\%?!~()[]\x7b\x7d".toList.contains c

/-- Characters that may continue a name. -/
def isNameChar (c : Char) : Bool :=
  c.toNat ≥ 0x20 ∧ ¬ isBlank c ∧ ¬ isPunctuation c

/-- Characters that may start a name. -/
def isNameStart (c : Char) : Bool := isNameChar c ∧ ¬ c.isDigit

/-- Whether a character is a hex digit. -/
def isHexDigit (c : Char) : Bool :=
  c.isDigit ∨ ('a' ≤ c ∧ c ≤ 'f') ∨ ('A' ≤ c ∧ c ≤ 'F')

theorem isBlank_of_isWhitespace (c : Char) (h : c.isWhitespace = true) : isBlank c = true := by
  simp only [Char.isWhitespace, Bool.or_eq_true, decide_eq_true_eq] at h
  simp only [isBlank, isWhiteSpace, decide_eq_true_eq]
  rcases h with ((h | h) | h) | h <;> subst h <;> decide

end ScriptGate.Chars
