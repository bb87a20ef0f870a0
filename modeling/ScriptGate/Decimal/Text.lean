import ScriptGate.Decimal.Shortest

/-!
# The text of a double

A double is written with the fewest significant digits that read back
(`Binary.shortest`).  Where the point goes is fixed by one record,
`Layout.standard`: the digits are written positionally when the decimal point
falls within sixteen places left of the first digit and three places right of
it, and in exponent form otherwise.  A whole number keeps `.0`, the exponent
has a sign and at least two digits, and the special values are `inf`, `-inf`
and `nan`.
-/

namespace ScriptGate.Decimal

/-- The decisions of a float format that the shortest digits leave open. -/
structure Layout where
  /-- Positional notation for a point position `p` with `lowest < p`. -/
  lowest : Int
  /-- Positional notation for a point position `p` with `p ≤ highest`. -/
  highest : Int
  /-- Least number of exponent digits. -/
  exponentDigits : Nat
  /-- The text of an infinity, after its sign. -/
  infinity : String
  /-- The text of NaN. -/
  notANumber : String

/-- Positional from `0.0001` up to below `1e16`, exponents of two digits or more. -/
def Layout.standard : Layout := ⟨-4, 16, 2, "inf", "nan"⟩

/-- Decimal digits of a natural number. -/
def digitText (n : Nat) : String := String.ofList (Nat.toDigits 10 n)

/-- `n` copies of `0`. -/
def zeros (n : Nat) : String := String.ofList (List.replicate n '0')

/-- The text of the digits `ds`, read as `0.ds · 10 ^ point`. -/
def Layout.place (l : Layout) (ds : String) (point : Int) : String :=
  let n : Int := ds.length
  if l.lowest < point ∧ point ≤ l.highest then
    if point ≤ 0 then "0." ++ zeros (-point).toNat ++ ds
    else if n ≤ point then ds ++ zeros (point - n).toNat ++ ".0"
    else
      String.ofList (ds.toList.take point.toNat) ++ "." ++ String.ofList (ds.toList.drop point.toNat)
  else
    let e := point - 1
    let mantissa :=
      if ds.length == 1 then ds
      else String.ofList (ds.toList.take 1) ++ "." ++ String.ofList (ds.toList.drop 1)
    let expText := digitText e.natAbs
    let padded := zeros (l.exponentDigits - expText.length) ++ expText
    mantissa ++ "e" ++ (if e < 0 then "-" else "+") ++ padded

/-- The text of a double under a layout. -/
def Layout.render (l : Layout) (x : Float) : String :=
  match Shape.ofFloat x with
  | .nan => l.notANumber
  | .infinite neg => (if neg then "-" else "") ++ l.infinity
  | .zero neg => if neg then "-0.0" else "0.0"
  | .finite neg b =>
    let (d, s) := b.shortest
    let ds := digitText d
    (if neg then "-" else "") ++ l.place ds (s + ds.length)

/-- The text of a double: shortest digits in the standard layout. -/
def floatText (x : Float) : String := Layout.standard.render x

/-- The integer part of a finite double, rounded toward zero. -/
def truncate (x : Float) : Option Int :=
  match Shape.ofFloat x with
  | .nan | .infinite _ => none
  | .zero _ => some 0
  | .finite neg b =>
    let whole : Nat :=
      if 0 ≤ b.exponent then b.significand * Nat.pow 2 b.exponent.toNat
      else b.significand / Nat.pow 2 (-b.exponent).toNat
    some (if neg then -(whole : Int) else whole)

/-- Whether a double is finite and has no fraction. -/
def isWhole (x : Float) : Bool :=
  match Shape.ofFloat x with
  | .nan | .infinite _ => false
  | .zero _ => true
  | .finite _ b =>
    0 ≤ b.exponent || b.significand % Nat.pow 2 (-b.exponent).toNat == 0

end ScriptGate.Decimal

namespace ScriptGate.Decimal

/-- The double nearest to `m · 10 ^ e`.  Beyond the range of doubles the answer
is known without computing the power: infinity above `10 ^ 310`, zero below
`10 ^ -400`. -/
def toFloat (m : Nat) (e : Int) : Float :=
  let size : Int := (Nat.toDigits 10 m).length
  if m = 0 then 0.0
  else if e + size > 310 then Float.ofScientific 1 false 400
  else if e + size < -400 then 0.0
  else if e ≥ 0 then Float.ofScientific m false e.toNat
  else Float.ofScientific m true (-e).toNat

end ScriptGate.Decimal
