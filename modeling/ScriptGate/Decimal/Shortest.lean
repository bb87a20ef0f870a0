/-!
# The shortest decimal that reads back

A finite double `x > 0` is `m · 2^q` for a significand `m` and an exponent
`q`, read off its bits by `Shape.ofFloat`.  The reals that round to `x` form an
interval around it: half the gap to the next double on each side, the ends
included exactly when `m` is even (a tie goes to the even significand).

`shortest` tries decimal grids with 1, 2, … 17 significant digits.  On each
grid it takes the two neighbours of `x` (the grid points just below and just
above) and keeps those inside the interval.  The first grid with a point
inside wins; of two points inside, the one nearer to `x`; of two equally near,
the even one.  Every comparison is exact, in `Nat`, after scaling both sides
by the same powers of two and ten.

Seventeen digits always suffice for a double, so the search never falls
through; if it did, it would answer the seventeen-digit lower neighbour.
-/

namespace ScriptGate.Decimal

/-- A positive finite double as `significand · 2 ^ exponent`. -/
structure Binary where
  /-- The significand, below `2 ^ 53`. -/
  significand : Nat
  /-- The binary exponent, between `-1074` and `971`. -/
  exponent : Int
  /-- Whether the next double below is nearer than the next one above. -/
  narrowBelow : Bool
deriving Repr, DecidableEq

/-- Sign, class and magnitude of a double. -/
inductive Shape where
  /-- Not a number. -/
  | nan
  /-- An infinity; `true` for the negative one. -/
  | infinite (negative : Bool)
  /-- A zero; `true` for `-0.0`. -/
  | zero (negative : Bool)
  /-- A finite nonzero value. -/
  | finite (negative : Bool) (magnitude : Binary)
deriving Repr, DecidableEq

/-- Reads sign, exponent field and fraction field off the bits of a double. -/
def Shape.ofBits (bits : UInt64) : Shape :=
  let negative := bits >>> 63 == 1
  let field := ((bits >>> 52) &&& 0x7FF).toNat
  let fraction := (bits &&& 0xFFFFFFFFFFFFF).toNat
  if field == 0x7FF then
    if fraction == 0 then .infinite negative else .nan
  else if field == 0 then
    if fraction == 0 then .zero negative
    else .finite negative ⟨fraction, -1074, false⟩
  else
    .finite negative ⟨fraction + Nat.pow 2 52, (field : Int) - 1075, fraction == 0 && field > 1⟩

/-- The shape of a double. -/
def Shape.ofFloat (x : Float) : Shape := Shape.ofBits x.toBits

/-- `a · 2^p · 10^r` compared with `b · 2^p' · 10^r'`, exactly. -/
def scaledLt (a : Nat) (p r : Int) (b : Nat) (p' r' : Int) : Bool :=
  let lowTwo := min p p'
  let lowTen := min r r'
  a * Nat.pow 2 (p - lowTwo).toNat * Nat.pow 10 (r - lowTen).toNat
    < b * Nat.pow 2 (p' - lowTwo).toNat * Nat.pow 10 (r' - lowTen).toNat

/-- `a · 2^p · 10^r ≤ b · 2^p' · 10^r'`, exactly. -/
def scaledLe (a : Nat) (p r : Int) (b : Nat) (p' r' : Int) : Bool :=
  !scaledLt b p' r' a p r

/-- The largest `e` with `10 ^ e ≤ m · 2 ^ q`, for `m > 0`.  The estimate from the
bit length of `m` is off by at most one, so five candidates around it suffice. -/
def decimalExponent (m : Nat) (q : Int) : Int :=
  let guess : Int := ((Nat.log2 m : Int) + q) * 30103 / 100000
  let candidates := [guess - 2, guess - 1, guess, guess + 1, guess + 2]
  (candidates.filter fun e => scaledLe 1 0 e m q 0).foldl max (guess - 3)

namespace Binary

/-- The interval of reals rounding to the value, as four times the lower end,
four times the upper end, both over `2 ^ exponent`. -/
def bounds (b : Binary) : Nat × Nat :=
  let low := if b.narrowBelow then 4 * b.significand - 1 else 4 * b.significand - 2
  (low, 4 * b.significand + 2)

/-- Whether `d · 10 ^ s` rounds to the value. -/
def contains (b : Binary) (d : Nat) (s : Int) : Bool :=
  let (low, high) := b.bounds
  let q := b.exponent - 2
  if b.significand % 2 == 0 then
    scaledLe low q 0 d 0 s && scaledLe d 0 s high q 0
  else
    scaledLt low q 0 d 0 s && scaledLt d 0 s high q 0

/-- The grid point `d · 10 ^ s` just below or at the value. -/
def floorOn (b : Binary) (s : Int) : Nat :=
  -- value / 10^s = m · 2^q / 10^s
  let num := b.significand * Nat.pow 2 b.exponent.toNat * Nat.pow 10 (-s).toNat
  let den := Nat.pow 2 (-b.exponent).toNat * Nat.pow 10 s.toNat
  num / den

/-- Twice the distance from `d · 10 ^ s` to the value, compared between two grid points. -/
def nearer (b : Binary) (s : Int) (d e : Nat) : Bool :=
  -- |d·10^s − v| < |e·10^s − v| with d < v < e means v − d·10^s < e·10^s − v,
  -- that is 2v < (d + e)·10^s
  let twice := 2 * b.significand
  if scaledLt twice b.exponent 0 (d + e) 0 s then true
  else if scaledLt (d + e) 0 s twice b.exponent 0 then false
  else d % 2 == 0

/-- The digits and exponent of the shortest decimal that reads back as the value,
searched on grids of `1 + k` significant digits for `k` below `fuel`. -/
def search (b : Binary) (top : Int) : Nat → Nat → Nat × Int
  | 0, k => (b.floorOn (top - k), top - k)
  | fuel + 1, k =>
    let s := top - k
    let d := b.floorOn s
    let e := d + 1
    match b.contains d s, b.contains e s with
    | true, true => if b.nearer s d e then (d, s) else (e, s)
    | true, false => (d, s)
    | false, true => (e, s)
    | false, false => search b top fuel (k + 1)

/-- Removes trailing zero digits, raising the exponent. -/
def trim : Nat → Int → Nat → Nat × Int
  | d, s, 0 => (d, s)
  | d, s, fuel + 1 => if d ≠ 0 ∧ d % 10 = 0 then trim (d / 10) (s + 1) fuel else (d, s)

/-- The shortest decimal `d · 10 ^ s` that reads back as the value, `d` without
trailing zeros. -/
def shortest (b : Binary) : Nat × Int :=
  let top := decimalExponent b.significand b.exponent
  let (d, s) := b.search top 17 0
  trim d s 20

end Binary

end ScriptGate.Decimal
