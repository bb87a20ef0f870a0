/-!
# Hints for syntax errors

A hint is advice for mending a syntax error, found by looking for phrases in
the lower-cased message, in a fixed order; the first phrase found decides.  A
message without any of the phrases has no hint.
-/

namespace ScriptGate

namespace Hint

/-- Lower case as far as a search for ASCII phrases can tell: ASCII capitals and the
Kelvin sign become lower-case ASCII letters, and the capital I with a dot becomes an
`i` and a combining dot.  Every other character lower-cases to characters that are not
ASCII, or stays, so no phrase is found or lost by leaving it. -/
def lower (s : String) : String :=
  String.join (s.toList.map fun c =>
    if c.toNat = 0x212A then "k"
    else if c.toNat = 0x130 then "i̇"
    else String.singleton c.toLower)

/-- Whether `phrase` occurs in `cs`, at its start or further on. -/
def occursIn (phrase : List Char) : List Char → Bool
  | [] => phrase.isEmpty
  | c :: rest => phrase.isPrefixOf (c :: rest) || occursIn phrase rest

/-- Whether `phrase` occurs in `s`. -/
def mentions (s phrase : String) : Bool := occursIn phrase.toList s.toList

end Hint

/-- Advice for a syntax error with this message, if a phrase of it calls for some. -/
def syntaxHint (message : String) : Option String :=
  let m := Hint.lower message
  let has := Hint.mentions m
  if has "unterminated string" || has "invalid or unexpected token" then
    some "Add the closing quote to terminate the string"
  else if has "expected \"\x7d\"" then some "Add the missing closing brace"
  else if has "expected \")\"" then some "Add the missing closing parenthesis"
  else if has "expected \"]\"" then some "Add the missing closing bracket"
  else if has "unexpected token" then
    if has "\x7d" then some "Check for missing opening brace or extra closing brace"
    else if has ")" then
      some "Check for missing opening parenthesis or extra closing parenthesis"
    else if has "]" then some "Check for missing opening bracket or extra closing bracket"
    else some "Check for typos or missing punctuation"
  else if has "unterminated template" then
    some "Add the closing backtick to terminate the template literal"
  else if has "unexpected end of input" then
    some "Check for an unclosed brace, parenthesis, bracket or string"
  else if has "missing semicolon" then some "Add a semicolon at the end of the statement"
  else if has "reserved word" then
    some "This word is reserved and cannot be used as an identifier"
  else if has "duplicate" && has "export" then
    some "Remove the duplicate export or rename one of them"
  else if has "unsupported syntax" then
    some "Rewrite this construct in plain JavaScript; JSX and decorators are not accepted"
  else none

end ScriptGate
