import ScriptGate.Decimal.Text
import ScriptGate.Text.Unicode
import ScriptGate.Syntax.Chars

/-!
# The value of a numeric literal

A numeric literal is read after its separators `_` are dropped.  The digits
of every script count as the digits of their values (`١٢` is 12), and the
blanks of every script may stand around the number; the choice between the
forms below looks at the text as written.

* A final `n` makes a BigInt.  The rest is an integer written as a program
  writes integer constants: decimal without a leading zero (zeros alone
  excepted), or hex, octal or binary after `0x`, `0o` or `0b`.  So `07n` has
  no value.
* `0x`, `0o` and `0b` (either case) begin integers in those bases.
* A literal with a point or an exponent is a double, rounded to nearest.
* A leading `0` followed by more digits is octal when every digit is below 8
  (`010` is 8), and decimal otherwise (`09` is 9).
* Anything else is a decimal integer.

A decimal integer of more than `digitLimit` digits has no value, and neither
has a BigInt whose decimal digits would be more: integers that long are refused
rather than converted.  Integers in bases 2, 8 and 16 are read at any length.

The text around the number may carry blanks and a sign, which are read as
written (`-5` is −5, ` 7` is 7); any other text has no value.
-/

namespace ScriptGate

/-- The value of a numeric literal. -/
inductive NumberValue where
  /-- An integer. -/
  | int (n : Int)
  /-- A double. -/
  | float (x : Float)
deriving Inhabited

/-- A numeric literal's value and, for a BigInt, its decimal digits. -/
structure Numeral where
  /-- The value. -/
  value : NumberValue
  /-- The decimal digits of a BigInt. -/
  bigint : Option String
deriving Inhabited

namespace Numeral

/-- Blanks that may stand around a number: the white space of Unicode.  The
information separators U+001C to U+001F, which a text split at its spaces drops,
are not among them. -/
def isBlank (c : Char) : Bool := Chars.isWhiteSpace c

/-- The text without blanks at either end. -/
def trimBlanks (cs : List Char) : List Char :=
  ((cs.dropWhile isBlank).reverse.dropWhile isBlank).reverse

/-- The value of a digit in a base, if it is one. -/
def digitIn (base : Nat) (c : Char) : Option Nat :=
  let n := c.toNat
  let v :=
    if 0x30 ≤ n ∧ n ≤ 0x39 then n - 0x30
    else if 0x61 ≤ n ∧ n ≤ 0x7A then n - 0x61 + 10
    else if 0x41 ≤ n ∧ n ≤ 0x5A then n - 0x41 + 10
    else 99
  if v < base then some v else none

/-- The value of one or more digits in a base. -/
def digitsIn (base : Nat) (cs : List Char) : Option Nat :=
  if cs.isEmpty then none
  else cs.foldl (fun acc c => do let a ← acc; let v ← digitIn base c; pure (base * a + v)) (some 0)

/-- The most digits a decimal integer may have. -/
def digitLimit : Nat := 4300

/-- Whether a decimal text has at most `digitLimit` digits. -/
def withinLimit (cs : List Char) : Bool :=
  ((Unicode.asciiDigits cs).filter Char.isDigit).length ≤ digitLimit

/-- Whether an integer's decimal digits number at most `digitLimit`. -/
def printable (v : Int) : Bool := (toString v.natAbs).length ≤ digitLimit

/-- A sign and the rest. -/
def sign (cs : List Char) : Bool × List Char :=
  match cs with
  | '-' :: rest => (true, rest)
  | '+' :: rest => (false, rest)
  | _ => (false, cs)

/-- `n` with a sign. -/
def signed (negative : Bool) (n : Nat) : Int := if negative then -(n : Int) else n

/-- A prefix `0x`, `0o` or `0b` in either case, as its base. -/
def radixPrefix : List Char → Option (Nat × List Char)
  | '0' :: r :: rest =>
    if r = 'x' ∨ r = 'X' then some (16, rest)
    else if r = 'o' ∨ r = 'O' then some (8, rest)
    else if r = 'b' ∨ r = 'B' then some (2, rest)
    else none
  | _ => none

/-- An integer written as a program writes an integer constant. -/
def constant? (cs : List Char) : Option Int :=
  let (negative, body) := sign (trimBlanks (Unicode.asciiDigits cs))
  match radixPrefix body with
  | some (base, ds) => (digitsIn base ds).map (signed negative)
  | none =>
    match body with
    | '0' :: _ => if body.all (· = '0') then some 0 else none
    | _ => (digitsIn 10 body).map (signed negative)

/-- An integer in a base, with blanks and a sign around it. -/
def integer? (base : Nat) (cs : List Char) : Option Int :=
  let (negative, body) := sign (trimBlanks (Unicode.asciiDigits cs))
  (digitsIn base body).map (signed negative)

/-- A decimal with a point or an exponent, as digits and a power of ten. -/
def decimal? (cs : List Char) : Option (Bool × Nat × Int) :=
  let (negative, body) := sign (trimBlanks (Unicode.asciiDigits cs))
  let whole := body.takeWhile Char.isDigit
  let afterWhole := body.drop whole.length
  let (fraction, afterFraction) :=
    match afterWhole with
    | '.' :: rest => (rest.takeWhile Char.isDigit, rest.drop (rest.takeWhile Char.isDigit).length)
    | _ => ([], afterWhole)
  if whole.isEmpty ∧ fraction.isEmpty then none
  else
    let mantissa := (digitsIn 10 (whole ++ fraction)).getD 0
    let shift : Int := -(fraction.length : Int)
    match afterFraction with
    | [] => some (negative, mantissa, shift)
    | e :: rest =>
      if (e = 'e' ∨ e = 'E') then
        let (expNegative, expDigits) := sign rest
        (digitsIn 10 expDigits).map fun x => (negative, mantissa, shift + signed expNegative x)
      else none

/-- The double of a decimal. -/
def toDouble (negative : Bool) (m : Nat) (e : Int) : Float :=
  let x := Decimal.toFloat m e
  if negative then -x else x

/-- The value of a numeric literal's text, if it has one. -/
def read? (text : String) : Option Numeral :=
  let ds := text.toList.filter (· ≠ '_')
  if ds.getLast? = some 'n' then
    let body := ds.dropLast
    let decimalBody := (radixPrefix ((sign (trimBlanks body)).2.map Char.toLower)).isNone
    if decimalBody && !withinLimit body then none
    else
      match constant? body with
      | some v => if printable v then some ⟨.int v, some (toString v)⟩ else none
      | none => none
  else
    let lower := ds.map Char.toLower
    if (radixPrefix lower).isSome then
      (constant? ds).map fun v => ⟨.int v, none⟩
    else if lower.contains '.' ∨ lower.contains 'e' then
      (decimal? ds).map fun (neg, m, e) => ⟨.float (toDouble neg m e), none⟩
    else if ds.length > 1 ∧ ds.head? = some '0' then
      if ds.all fun c => '0' ≤ c ∧ c ≤ '7' then (integer? 8 ds).map fun v => ⟨.int v, none⟩
      else if withinLimit ds then (integer? 10 ds).map fun v => ⟨.int v, none⟩
      else none
    else if withinLimit ds then (integer? 10 ds).map fun v => ⟨.int v, none⟩
    else none

end Numeral

end ScriptGate
