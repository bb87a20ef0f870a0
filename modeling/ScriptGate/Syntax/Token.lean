/-!
# Tokens

A token is a kind and the characters `[start, stop)` it covers in the text.
The text itself stays with the scanner; `Token.text` cuts it out.

A string or a regular expression whose closing quote or slash is missing is
still one token, marked open, so that the grammar can ask for the missing
delimiter right after it.  `pieces` counts the parts a string is made of (its
quotes, runs of plain characters and escapes): a recovery that skips a string
pays for each part.

A *missing* token covers no characters.  It is what a repair supplies: a
closing bracket, a semicolon or a name that the text lacks.
-/

namespace ScriptGate

/-- The kinds of token. -/
inductive TokenKind where
  /-- An identifier, a keyword or a word the grammar reads either way. -/
  | word
  /-- A private name `#name`. -/
  | privateName
  /-- A numeric literal. -/
  | number
  /-- A string literal; `closed` when its closing quote is there. -/
  | string (quote : Char) (closed : Bool) (pieces : Nat)
  /-- A regular expression literal; its pattern ends at `patternStop`. -/
  | regex (patternStop : Nat)
  /-- A slash and a pattern without the closing slash. -/
  | regexOpen
  /-- Punctuation or an operator. -/
  | punct (text : String)
  /-- Plain characters of a template, escapes included. -/
  | templateText (pieces : Nat)
  /-- Text between the tags of an element. -/
  | elementText
  /-- Characters that begin no token. -/
  | junk
  /-- The end of the text. -/
  | eof
  /-- A token the text lacks, supplied by a repair. -/
  | missing (symbol : String)
deriving Repr, DecidableEq, Inhabited

/-- A token and the characters it covers. -/
structure Token where
  /-- Its kind. -/
  kind : TokenKind
  /-- Where it starts. -/
  start : Nat
  /-- Where it stops. -/
  stop : Nat
deriving Repr, DecidableEq, Inhabited

namespace Token

/-- Whether the token is the punctuation `p`. -/
def isPunct (t : Token) (p : String) : Bool := t.kind == .punct p

/-- Whether the token is a word. -/
def isWord (t : Token) : Bool := t.kind == .word

/-- The number of parts a recovery that skips the token pays for. -/
def pieces (t : Token) : Nat :=
  match t.kind with
  | .string _ _ n => n
  | .templateText n => n
  | .regex _ => 3
  | .regexOpen => 2
  | .missing _ => 0
  | .eof => 0
  | _ => 1

end Token

end ScriptGate
