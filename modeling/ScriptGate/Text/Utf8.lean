/-!
# UTF-8

A text is written as UTF-8 before it is parsed, and the syntax tree reports
positions in those bytes.  `Utf8.encode` writes each character as one to four
bytes.

`Utf8.decodedLength` counts the characters that reading bytes back gives when
each ill-formed stretch is replaced by one replacement character, as a decoder
does that follows the Unicode recommendation on maximal subparts.

* A byte that cannot start a character is one replacement.
* A well-formed start cut short is one replacement, whatever cuts it.
* Inside a character the decoder expects a number of further bytes, the next
  in a range that depends on the first byte (`Utf8.Expect.after`).  After
  `0xE0` and `0xF0` the range leaves out the bytes that would spell a
  character at more length than it needs.  After `0xED` it leaves out those
  that would spell a surrogate.  After `0xF4` it leaves out those that would
  pass U+10FFFF.
-/

namespace ScriptGate

namespace Utf8

/-- The bytes a decoder expects to finish the character it reads: how many, and the
range of the next one. -/
structure Expect where
  /-- Bytes still to come. -/
  pending : Nat
  /-- The least next byte. -/
  lo : Nat
  /-- The greatest next byte. -/
  hi : Nat
deriving DecidableEq, Repr

/-- A decoder between characters. -/
def Expect.idle : Expect := ⟨0, 0x80, 0xBF⟩

/-- What a decoder expects after the first byte of a character: nothing after a byte
that is a character on its own or starts none. -/
def Expect.after (b : Nat) : Expect :=
  if b < 0xC2 then .idle
  else if b < 0xE0 then ⟨1, 0x80, 0xBF⟩
  else if b = 0xE0 then ⟨2, 0xA0, 0xBF⟩
  else if b = 0xED then ⟨2, 0x80, 0x9F⟩
  else if b < 0xF0 then ⟨2, 0x80, 0xBF⟩
  else if b = 0xF0 then ⟨3, 0x90, 0xBF⟩
  else if b < 0xF4 then ⟨3, 0x80, 0xBF⟩
  else if b = 0xF4 then ⟨3, 0x80, 0x8F⟩
  else .idle

/-- Whether a byte goes on the character being read. -/
def Expect.accepts (e : Expect) (b : Nat) : Bool :=
  0 < e.pending && e.lo ≤ b && b ≤ e.hi

/-- The characters that decoding `bs` gives, each ill-formed stretch read as one
replacement character. -/
def decodedLength : Expect → List UInt8 → Nat
  | _, [] => 0
  | e, b :: bs =>
    if e.accepts b.toNat then decodedLength ⟨e.pending - 1, 0x80, 0xBF⟩ bs
    else decodedLength (Expect.after b.toNat) bs + 1

/-- The UTF-8 bytes of characters. -/
def encode (cs : List Char) : List UInt8 := cs.flatMap String.utf8EncodeChar

end Utf8

end ScriptGate
