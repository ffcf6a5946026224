import OpenPulls.Text.Utf8

/-!
# Text that was encoded

Bytes that were written for a text are read back as that text (`Utf8.decode_encode`).

A character is written as a first byte, which holds the number of bytes that follow, and further
bytes with six bits each. Reading takes the bits together again (`Utf8.codeFrom?_cons`), and the
first byte leaves no doubt about the length (`Utf8.lead?_of_lt` and the lemmas beside it).
-/

namespace OpenPulls

/-- A fact about the characters of ASCII is checked for each of them. -/
theorem forall_ascii {P : Char → Prop} (h : ∀ n < 0x80, P (Char.ofNat n)) {c : Char}
    (hc : c.toNat < 0x80) : P c := by
  rw [← Char.ofNat_toNat c]
  exact h _ hc

namespace Text.Utf8

/-! ## Bytes -/

theorem toNat_toUInt8 {n : Nat} (h : n < 256) : n.toUInt8.toNat = n := by
  simpa using Nat.mod_eq_of_lt h

/-- A further byte adds its six bits. -/
theorem codeFrom?_cons {value count bits : Nat} (h : bits < 64) (rest : List UInt8) :
    codeFrom? value (count + 1) ((0x80 + bits).toUInt8 :: rest) =
      codeFrom? (value * 64 + bits) count rest := by
  have hb : (0x80 + bits).toUInt8.toNat = 0x80 + bits := toNat_toUInt8 (by omega)
  rw [codeFrom?, hb, if_pos (by omega)]
  congr 2
  omega

theorem lead?_ascii {n : Nat} (h : n < 0x80) : lead? n.toUInt8 = some (0, n) := by
  simp only [lead?, toNat_toUInt8 (show n < 256 by omega), h, if_true]

theorem lead?_two {n : Nat} (h : 2 ≤ n) (h' : n < 0x20) :
    lead? (0xC0 + n).toUInt8 = some (1, n) := by
  simp only [lead?, toNat_toUInt8 (show 0xC0 + n < 256 by omega)]
  rw [if_neg (by omega), if_neg (by omega), if_pos (by omega), Nat.add_sub_cancel_left]

theorem lead?_three {n : Nat} (h : n < 0x10) : lead? (0xE0 + n).toUInt8 = some (2, n) := by
  simp only [lead?, toNat_toUInt8 (show 0xE0 + n < 256 by omega)]
  rw [if_neg (by omega), if_neg (by omega), if_neg (by omega), if_pos (by omega),
    Nat.add_sub_cancel_left]

theorem lead?_four {n : Nat} (h : n < 5) : lead? (0xF0 + n).toUInt8 = some (3, n) := by
  simp only [lead?, toNat_toUInt8 (show 0xF0 + n < 256 by omega)]
  rw [if_neg (by omega), if_neg (by omega), if_neg (by omega), if_neg (by omega),
    if_pos (by omega), Nat.add_sub_cancel_left]

/-! ## Characters -/

/-- A first byte and the bytes behind it that hold the code of a character are read as it. -/
theorem first?_eq {b : UInt8} {count value : Nat} {c : Char} {rest : List UInt8}
    (hb : lead? b = some (count, value)) (hn : codeFrom? value count rest = some c.toNat)
    (hleast : least count ≤ c.toNat) : first? b rest = some (c, count) := by
  have hvalid : c.toNat.isValidChar := c.valid
  rw [first?, hb, Option.bind_eq_bind, Option.bind_some]
  dsimp only
  rw [hn, Option.bind_eq_bind, Option.bind_some, dif_pos hvalid, if_pos hleast]
  rfl

theorem decodeFrom_skip (taken rest : List UInt8) :
    decodeFrom taken.length (taken ++ rest) = decodeFrom 0 rest := by
  induction taken with
  | nil => rfl
  | cons b taken ih => rw [List.length_cons, List.cons_append, decodeFrom, ih]

theorem decodeFrom_cons {b : UInt8} {rest : List UInt8} {c : Char} (count : Nat)
    (taken : List UInt8) (hcount : taken.length = count)
    (h : first? b (taken ++ rest) = some (c, count)) :
    decodeFrom 0 (b :: taken ++ rest) = .char c :: decodeFrom 0 rest := by
  subst hcount
  rw [List.cons_append, decodeFrom]
  simp only [h, decodeFrom_skip]

/-- The bytes of a character are read as it, whatever follows. -/
theorem decodeFrom_encodeChar (c : Char) (rest : List UInt8) :
    decodeFrom 0 (encodeChar c ++ rest) = .char c :: decodeFrom 0 rest := by
  have hmax : c.toNat < 0x110000 := by
    have hvalid := c.valid
    simp only [UInt32.isValidChar, Nat.isValidChar] at hvalid
    show c.val.toNat < _
    omega
  rw [encodeChar]
  split
  next h1 =>
    exact decodeFrom_cons 0 [] rfl (first?_eq (lead?_ascii h1) rfl (Nat.zero_le _))
  split
  next h1 h2 =>
    refine decodeFrom_cons 1 [_] rfl (first?_eq (lead?_two (by omega) (by omega)) ?_ ?_)
    · rw [List.singleton_append, codeFrom?_cons (by omega), codeFrom?]
      congr 1
      omega
    · exact Nat.le_of_not_lt h1
  split
  next h1 h2 h3 =>
    refine decodeFrom_cons 2 [_, _] rfl (first?_eq (lead?_three (by omega)) ?_ ?_)
    · rw [List.cons_append, List.singleton_append, codeFrom?_cons (by omega),
        codeFrom?_cons (by omega), codeFrom?]
      congr 1
      omega
    · exact Nat.le_of_not_lt h2
  next h1 h2 h3 =>
    refine decodeFrom_cons 3 [_, _, _] rfl (first?_eq (lead?_four (by omega)) ?_ ?_)
    · rw [List.cons_append, List.cons_append, List.singleton_append, codeFrom?_cons (by omega),
        codeFrom?_cons (by omega), codeFrom?_cons (by omega), codeFrom?]
      congr 1
      omega
    · exact Nat.le_of_not_lt h3

/-! ## Texts -/

theorem encode_append (text text' : List Char) :
    encode (text ++ text') = encode text ++ encode text' := List.flatMap_append

theorem encode_cons (c : Char) (text : List Char) :
    encode (c :: text) = encodeChar c ++ encode text := List.flatMap_cons

theorem encodeChar_ascii {c : Char} (h : c.toNat < 0x80) : encodeChar c = [c.toNat.toUInt8] :=
  if_pos h

/-- **What was encoded is read back.** -/
theorem decode_encode (text : List Char) : decode (encode text) = text.map .char := by
  rw [decode]
  induction text with
  | nil => rfl
  | cons c text ih =>
    rw [encode_cons, decodeFrom_encodeChar, ih, List.map_cons]

theorem decodeText?_encode (text : List Char) : decodeText? (encode text) = some text := by
  rw [decodeText?, decode_encode, chars?_map_char]

theorem encode_injective {text text' : List Char} (h : encode text = encode text') :
    text = text' := by
  have htext := decodeText?_encode text
  rw [h, decodeText?_encode] at htext
  exact (Option.some.inj htext).symm

end Text.Utf8

end OpenPulls
