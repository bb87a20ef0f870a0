import ScriptGate.Text.Utf8
import Mathlib.Data.List.Count

/-!
# Reading UTF-8 back

The bytes of a character, decoded, read as one character
(`decodedLength_utf8EncodeChar`).  So the UTF-8 of a list of characters decodes
to as many characters as the list holds (`decodedLength_encode`), and bytes
below `0x80` decode to one character each (`decodedLength_ascii`).  The bytes
of a character that is not a line feed are never the byte of a line feed
(`count_encode`), which is why the rows of a text can be counted in its bytes.

The proof follows the four lengths of a character's bytes.  For each, the first
byte sets what the decoder expects (`after_two`, `after_three`, `after_four`),
and each further byte lies in the range expected, because the code point lies
between the least and the greatest that the length spells and is no surrogate.
-/

namespace ScriptGate

namespace Utf8

@[simp] theorem encode_nil : encode [] = [] := rfl

@[simp] theorem encode_cons (c : Char) (cs : List Char) :
    encode (c :: cs) = String.utf8EncodeChar c ++ encode cs := rfl

@[simp] theorem encode_append (cs ds : List Char) : encode (cs ++ ds) = encode cs ++ encode ds :=
  List.flatMap_append

theorem toNat_ofNat_of_lt {n : Nat} (h : n < 256) : (UInt8.ofNat n).toNat = n := by
  simp [Nat.mod_eq_of_lt h]

/-! ## What the first byte sets -/

theorem after_of_lt {b : Nat} (h : b < 0xC2) : Expect.after b = .idle := by
  simp [Expect.after, h]

theorem after_two {b : Nat} (h : 0xC2 ≤ b ∧ b < 0xE0) : Expect.after b = ⟨1, 0x80, 0xBF⟩ := by
  unfold Expect.after
  split_ifs <;> first | rfl | omega

theorem after_three {b : Nat} (h : 0xE0 ≤ b ∧ b < 0xF0) :
    Expect.after b = ⟨2, if b = 0xE0 then 0xA0 else 0x80, if b = 0xED then 0x9F else 0xBF⟩ := by
  unfold Expect.after
  split_ifs <;> first | rfl | omega

theorem after_four {b : Nat} (h : 0xF0 ≤ b ∧ b < 0xF5) :
    Expect.after b = ⟨3, if b = 0xF0 then 0x90 else 0x80, if b = 0xF4 then 0x8F else 0xBF⟩ := by
  unfold Expect.after
  split_ifs <;> first | rfl | omega

/-! ## One byte at a time -/

/-- Once a character is done, the range last expected no longer matters. -/
theorem decodedLength_of_pending_eq_zero {e : Expect} (h : e.pending = 0) (bs : List UInt8) :
    decodedLength e bs = decodedLength .idle bs := by
  cases bs with
  | nil => rfl
  | cons b bs => simp [decodedLength, Expect.accepts, Expect.idle, h]

theorem decodedLength_start (b : UInt8) (bs : List UInt8) :
    decodedLength .idle (b :: bs) = decodedLength (Expect.after b.toNat) bs + 1 := by
  simp [decodedLength, Expect.accepts, Expect.idle]

/-- A byte that starts no longer character counts one on its own. -/
theorem decodedLength_idle_cons {b : UInt8} (h : b.toNat < 0xC2) (bs : List UInt8) :
    decodedLength .idle (b :: bs) = decodedLength .idle bs + 1 := by
  rw [decodedLength_start, after_of_lt h]

/-- A byte in the range expected, with more to come. -/
theorem decodedLength_more {k lo hi : Nat} {b : UInt8} (h : lo ≤ b.toNat ∧ b.toNat ≤ hi)
    (bs : List UInt8) :
    decodedLength ⟨k + 2, lo, hi⟩ (b :: bs) = decodedLength ⟨k + 1, 0x80, 0xBF⟩ bs := by
  simp [decodedLength, Expect.accepts, h.1, h.2]

/-- The last byte expected ends the character. -/
theorem decodedLength_last {lo hi : Nat} {b : UInt8} (h : lo ≤ b.toNat ∧ b.toNat ≤ hi)
    (bs : List UInt8) :
    decodedLength ⟨1, lo, hi⟩ (b :: bs) = decodedLength .idle bs := by
  simp only [decodedLength, Expect.accepts, h.1, h.2]
  simpa using decodedLength_of_pending_eq_zero rfl bs

/-! ## Characters -/

/-- The bytes of a character read back as one character. -/
theorem decodedLength_utf8EncodeChar (c : Char) (bs : List UInt8) :
    decodedLength .idle (String.utf8EncodeChar c ++ bs) = decodedLength .idle bs + 1 := by
  have hv : c.val.toNat.isValidChar := c.valid
  simp only [Nat.isValidChar] at hv
  have hc : c.toNat = c.val.toNat := rfl
  simp only [String.utf8EncodeChar]
  -- one case for each length; the omega goals place each byte in its range
  split_ifs with h1 h2 h3
  · exact decodedLength_idle_cons (by rw [toNat_ofNat_of_lt (by omega)]; omega) bs
  · simp only [List.cons_append, List.nil_append]
    rw [decodedLength_start, toNat_ofNat_of_lt (by omega), after_two (by omega),
      decodedLength_last (by rw [toNat_ofNat_of_lt (by omega)]; omega)]
  · simp only [List.cons_append, List.nil_append]
    rw [decodedLength_start, toNat_ofNat_of_lt (by omega), after_three (by omega),
      decodedLength_more (by rw [toNat_ofNat_of_lt (by omega)]; split_ifs <;> omega),
      decodedLength_last (by rw [toNat_ofNat_of_lt (by omega)]; omega)]
  · simp only [List.cons_append, List.nil_append]
    rw [decodedLength_start, toNat_ofNat_of_lt (by omega), after_four (by omega),
      decodedLength_more (by rw [toNat_ofNat_of_lt (by omega)]; split_ifs <;> omega),
      decodedLength_more (by rw [toNat_ofNat_of_lt (by omega)]; omega),
      decodedLength_last (by rw [toNat_ofNat_of_lt (by omega)]; omega)]

/-- The UTF-8 of characters, followed by any bytes, reads back as those characters first. -/
theorem decodedLength_encode_append (cs : List Char) (bs : List UInt8) :
    decodedLength .idle (encode cs ++ bs) = decodedLength .idle bs + cs.length := by
  induction cs with
  | nil => simp
  | cons c cs ih =>
    rw [encode_cons, List.append_assoc, decodedLength_utf8EncodeChar, ih, List.length_cons]
    omega

theorem decodedLength_encode (cs : List Char) : decodedLength .idle (encode cs) = cs.length := by
  have h := decodedLength_encode_append cs []
  rwa [List.append_nil, show decodedLength .idle [] = 0 from rfl, Nat.zero_add] at h

/-- Bytes below `0x80` read as one character each. -/
theorem decodedLength_ascii {bs : List UInt8} (h : ∀ b ∈ bs, b.toNat < 0x80) :
    decodedLength .idle bs = bs.length := by
  induction bs with
  | nil => rfl
  | cons b bs ih =>
    rw [decodedLength_idle_cons (by have := h b List.mem_cons_self; omega),
      ih fun x hx => h x (List.mem_cons_of_mem _ hx), List.length_cons]

/-! ## Line feeds -/

theorem eq_newline_iff (c : Char) : c = '\n' ↔ c.val.toNat = 10 := by
  rw [← Char.toNat_inj]
  rfl

/-- A character's bytes hold the byte of a line feed once if it is one, and never
otherwise: every byte of a longer character is at least `0x80`. -/
theorem count_utf8EncodeChar (c : Char) :
    (String.utf8EncodeChar c).count 10 = if c = '\n' then 1 else 0 := by
  have hc : c.toNat = c.val.toNat := rfl
  simp only [String.utf8EncodeChar, eq_newline_iff]
  split_ifs with h1 h2 h3 hn <;> simp [List.count_cons, ← UInt8.toNat_inj, UInt8.toNat_ofNat] <;>
    omega

theorem count_encode (cs : List Char) : (encode cs).count 10 = cs.count '\n' := by
  induction cs with
  | nil => rfl
  | cons c cs ih =>
    rw [encode_cons, List.count_append, count_utf8EncodeChar, ih, List.count_cons]
    by_cases hc : c = '\n'
    · simp [hc, Nat.add_comm]
    · simp [hc]

theorem newline_mem_utf8EncodeChar_iff (c : Char) : (10 : UInt8) ∈ String.utf8EncodeChar c ↔ c = '\n' := by
  rw [← List.count_pos_iff, count_utf8EncodeChar]
  split <;> simp_all

end Utf8

end ScriptGate
