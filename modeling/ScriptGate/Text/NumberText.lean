import ScriptGate.Syntax.Numeral

/-!
# Numbers written as text

How a general-purpose reader of numbers takes an integer or a double from a
text, such as the text of a configuration value.

* Blanks of every script may stand around the number, and digits of every
  script count as their values (`١٢` is 12).
* An integer has an optional sign, then, in base 2, 8 or 16, an optional
  prefix `0b`, `0o` or `0x` of that base (either case, one underscore may follow
  it), then digits of the base with single underscores between them.  In a base
  that is no power of two it may have at most `Numeral.digitLimit` digits.
* A double has an optional sign and then `inf`, `infinity` or `nan` in any
  case, or decimal digits with an optional point and an optional exponent;
  single underscores may stand between digits.  It is rounded to nearest.
-/

namespace ScriptGate

namespace NumberText

/-- The text without its blanks around it, digits of every script as ASCII. -/
def normal (s : String) : List Char := Numeral.trimBlanks (Unicode.asciiDigits s.toList)

/-- Digits that pass `ok`, with single underscores between them: the digits, when
the whole text is such a run. -/
def digitRun (ok : Char → Bool) : List Char → Option (List Char)
  | [] => none
  | [c] => if ok c then some [c] else none
  | c :: '_' :: more => if ok c then (digitRun ok more).map (c :: ·) else none
  | c :: d :: more => if ok c then (digitRun ok (d :: more)).map (c :: ·) else none

/-- Whether a character is a digit of a base up to 36. -/
def isDigitOf (base : Nat) (c : Char) : Bool := (Numeral.digitIn base c).isSome

/-- Whether a base is a power of two. -/
def isPowerOfTwo (base : Nat) : Bool := base = 2 || base = 4 || base = 8 || base = 16 || base = 32

/-- The text after a prefix of the base, with the one underscore that may follow it. -/
def afterPrefix (base : Nat) : List Char → List Char
  | '0' :: p :: rest =>
    let lower := p.toLower
    if (base = 16 && lower = 'x') || (base = 8 && lower = 'o') || (base = 2 && lower = 'b') then
      match rest with
      | '_' :: more => more
      | _ => rest
    else '0' :: p :: rest
  | cs => cs

/-- The integer a text spells in a base from 2 to 36. -/
def integer? (base : Nat) (s : String) : Option Int := do
  let (negative, body) := Numeral.sign (normal s)
  let ds ← digitRun (isDigitOf base) (afterPrefix base body)
  if !isPowerOfTwo base && ds.length > Numeral.digitLimit then none
  let n ← Numeral.digitsIn base ds
  some (Numeral.signed negative n)

/-- The double a text spells. -/
def double? (s : String) : Option Float := do
  let (negative, body) := Numeral.sign (normal s)
  let word := String.ofList (body.map Char.toLower)
  if word = "inf" || word = "infinity" then
    some (if negative then -(1.0 / 0.0) else 1.0 / 0.0)
  else if word = "nan" then some (0.0 / 0.0)
  else
    let (whole, rest) := (body.takeWhile (fun (c : Char) => c.isDigit || c = '_'),
      body.dropWhile (fun (c : Char) => c.isDigit || c = '_'))
    let (fraction, rest) := match rest with
      | '.' :: more => (more.takeWhile (fun (c : Char) => c.isDigit || c = '_'),
          more.dropWhile (fun (c : Char) => c.isDigit || c = '_'))
      | _ => ([], rest)
    let exponent : Option (List Char) := match rest with
      | e :: more => if e = 'e' || e = 'E' then some more else none
      | [] => some []
    let exp ← exponent
    if whole.isEmpty && fraction.isEmpty then none
    let w ← if whole.isEmpty then some [] else digitRun Char.isDigit whole
    let f ← if fraction.isEmpty then some [] else digitRun Char.isDigit fraction
    let e : Int ← match exp with
      | [] => if rest.isEmpty then some 0 else none
      | _ =>
        let (eNeg, eBody) := Numeral.sign exp
        let eds ← digitRun Char.isDigit eBody
        let v ← Numeral.digitsIn 10 eds
        some (Numeral.signed eNeg v)
    let m := (Numeral.digitsIn 10 (w ++ f)).getD 0
    some (Numeral.toDouble negative m (e - f.length))

end NumberText

end ScriptGate
