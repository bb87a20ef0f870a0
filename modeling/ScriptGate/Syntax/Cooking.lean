/-!
# Cooking string bodies

The *cooked* value of a string or template body is its text with every escape
read.  A backslash and what follows it form one escape, tried in this order:

* `u{H…}`, one or more hex digits in braces: the code point they spell;
* `uHHHH` and `xHH`: the code point of the four or two hex digits;
* one to three octal digits, as many as stand there: their value
  (`\101` is `A`, `\400` is U+0100, `\08` is NUL followed by `8`);
* a carriage return and a line feed together, or any one character.

Of the single characters, `n t r b f v` stand for their control characters, a
line break (`\n`, `\r`, U+2028, U+2029, and `\r\n` together) stands for
nothing, and every other character stands for itself.  A backslash that ends
the body stays as it is.

Escapes yield UTF-16 units as well as code points, so the result is read as
UTF-16 at the end: a high surrogate followed by a low one is one code point,
and any other surrogate becomes U+FFFD.  A code point above U+10FFFF is
refused.
-/

namespace ScriptGate.Cooking

/-- The value of a hex digit. -/
def hexValue (c : Nat) : Option Nat :=
  if 0x30 ≤ c ∧ c ≤ 0x39 then some (c - 0x30)
  else if 0x61 ≤ c ∧ c ≤ 0x66 then some (c - 0x61 + 10)
  else if 0x41 ≤ c ∧ c ≤ 0x46 then some (c - 0x41 + 10)
  else none

/-- Whether a code point is an octal digit. -/
def isOctal (c : Nat) : Bool := 0x30 ≤ c ∧ c ≤ 0x37

/-- The value of a list of hex digits, if every one is a hex digit. -/
def hexNumber (ds : List Nat) : Option Nat :=
  ds.foldl (fun acc d => do let a ← acc; let v ← hexValue d; pure (16 * a + v)) (some 0)

/-- The value of octal digits. -/
def octalNumber (ds : List Nat) : Nat := ds.foldl (fun acc d => 8 * acc + (d - 0x30)) 0

/-- The hex digits of a `u{…}` escape and the rest after the closing brace. -/
def braced : (cs : List Nat) → Option (List Nat × {r : List Nat // r.length < cs.length})
  | [] => none
  | c :: rest =>
    if c = 0x7D then some ([], ⟨rest, by simp⟩)
    else if (hexValue c).isSome then
      (braced rest).map fun (ds, r) => (c :: ds, ⟨r.1, by have := r.2; simp; omega⟩)
    else none

/-- Why an escape cannot be read. -/
inductive CookError where
  /-- A `u{…}` escape names a code point beyond U+10FFFF. -/
  | beyondUnicode (code : Nat)
deriving Repr, DecidableEq

/-- What one escape stands for, for the single characters that are not read as numbers. -/
def singleEscape (c : Nat) : List Nat :=
  if c = 0x6E then [0x0A]
  else if c = 0x74 then [0x09]
  else if c = 0x72 then [0x0D]
  else if c = 0x62 then [0x08]
  else if c = 0x66 then [0x0C]
  else if c = 0x76 then [0x0B]
  else if c = 0x0A ∨ c = 0x0D ∨ c = 0x2028 ∨ c = 0x2029 then []
  else [c]

/-- Dropping characters never lengthens a body. -/
theorem length_drop_le (n : Nat) (l : List Nat) : (l.drop n).length ≤ l.length := by
  rw [List.length_drop]
  exact Nat.sub_le _ _

/-- What one escape stands for, given the character after the backslash and the
rest of the body, with the rest after the escape. -/
def escape (e : Nat) (more : List Nat) :
    Except CookError (List Nat × {r : List Nat // r.length ≤ more.length}) :=
  let braces := if more.head? = some 0x7B then braced (more.drop 1) else none
  match e == 0x75, braces with
  | true, some (d :: ds, after) =>
    let ds := d :: ds
    let v := (hexNumber ds).getD 0
    if v > 0x10FFFF then .error (.beyondUnicode v)
    else .ok ([v], ⟨after.1, Nat.le_trans (Nat.le_of_lt after.2) (length_drop_le 1 more)⟩)
  | _, _ =>
    let four := more.take 4
    let two := more.take 2
    if e = 0x75 ∧ four.length = 4 ∧ (hexNumber four).isSome then
      .ok ([(hexNumber four).getD 0], ⟨more.drop 4, length_drop_le 4 more⟩)
    else if e = 0x78 ∧ two.length = 2 ∧ (hexNumber two).isSome then
      .ok ([(hexNumber two).getD 0], ⟨more.drop 2, length_drop_le 2 more⟩)
    else if isOctal e then
      let extra := (more.take 2).takeWhile isOctal
      .ok ([octalNumber (e :: extra)], ⟨more.drop extra.length, length_drop_le extra.length more⟩)
    else if e = 0x0D ∧ more.head? = some 0x0A then
      .ok ([], ⟨more.drop 1, length_drop_le 1 more⟩)
    else .ok (singleEscape e, ⟨more, Nat.le_refl _⟩)

/-- Reads the escapes of a body, yielding code points and UTF-16 units. -/
def cookUnits : List Nat → Except CookError (List Nat)
  | [] => .ok []
  | c :: rest =>
    if c ≠ 0x5C then (cookUnits rest).map (c :: ·)
    else match rest with
      | [] => .ok [0x5C]
      | e :: more =>
        match escape e more with
        | .error err => .error err
        | .ok (units, ⟨r, _hr⟩) => (cookUnits r).map (units ++ ·)
termination_by cs => cs.length
decreasing_by all_goals (simp only [List.length_cons]; omega)

/-- Reads UTF-16 units and code points: a high surrogate and a low one that
follows it make one code point, any other surrogate is U+FFFD. -/
def joinUnits : List Nat → List Char
  | [] => []
  | [u] => [toChar u]
  | u :: v :: rest =>
    if 0xD800 ≤ u ∧ u ≤ 0xDBFF ∧ 0xDC00 ≤ v ∧ v ≤ 0xDFFF then
      Char.ofNat (0x10000 + (u - 0xD800) * 0x400 + (v - 0xDC00)) :: joinUnits rest
    else toChar u :: joinUnits (v :: rest)
where
  /-- A code point, or U+FFFD for a surrogate. -/
  toChar (u : Nat) : Char := if 0xD800 ≤ u ∧ u ≤ 0xDFFF then '\uFFFD' else Char.ofNat u

/-- The cooked value of a body given as code points. -/
def cook (body : List Nat) : Except CookError String :=
  (cookUnits body).map fun units => String.ofList (joinUnits units)

end ScriptGate.Cooking
