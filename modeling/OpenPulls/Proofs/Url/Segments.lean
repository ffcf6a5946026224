import OpenPulls.Proofs.Encoding
import OpenPulls.Rest.Client

/-!
# Identifiers in paths

An identifier is written into a path as a segment of its own.

* `Percent.decode_encode`: percent-encoding can be taken back, so the segment still says what the
  identifier is.
* `isSegmentChar_of_mem`: nothing in the segment ends it, or is changed when it is read as a part of
  an address.
* `isDot_segment`, `isDoubleDot_segment`: only the identifiers of one and two dots are taken for a
  step in the path, since the others say something else than dots.
-/

namespace OpenPulls

open Text (Utf8.encode Utf8.encodeChar)
open Text.Utf8 (encodeChar_ascii encode_append encode_cons)

theorem toNat_lt_of_isAlphanum {c : Char} (h : c.isAlphanum = true) : c.toNat < 0x80 := by
  have hlt (top : Char) (hle : c.val ≤ top.val) (htop : top.toNat < 0x80) : c.toNat < 0x80 :=
    Nat.lt_of_le_of_lt (UInt32.le_iff_toNat_le.mp hle) htop
  rcases Bool.or_eq_true_iff.mp h with halpha | hdigit
  · rcases Bool.or_eq_true_iff.mp halpha with hupper | hlower
    · exact hlt 'Z' (of_decide_eq_true hupper).2 (by decide)
    · exact hlt 'z' (of_decide_eq_true (Bool.and_eq_true_iff.mp hlower).2) (by decide)
  · exact hlt '9' (of_decide_eq_true (Bool.and_eq_true_iff.mp hdigit).2) (by decide)

namespace Percent

/-! ## Decoding -/

theorem decode_cons_of_ne {b : UInt8} (h : b ≠ 0x25) (rest : List UInt8) :
    decode (b :: rest) = b :: decode rest := by
  match rest with
  | [] => rfl
  | [_] => rfl
  | _ :: _ :: _ => rw [decode, if_neg h]

/-- A hexadecimal digit is one byte, which has its value. -/
theorem hexDigit_read : ∀ n < 16, (hexDigit n).toNat < 0x80 ∧
    hexValue? (hexDigit n).toNat.toUInt8 = some n := by decide

/-- A byte that was written with a percent sign is read as it. -/
theorem decode_encodeByte (b : UInt8) (rest : List UInt8) :
    decode (Utf8.encode (encodeByte b) ++ rest) = b :: decode rest := by
  have hb : b.toNat < 256 := b.toNat_lt
  obtain ⟨hhigh, hhigh'⟩ := hexDigit_read (b.toNat / 16) (by omega)
  obtain ⟨hlow, hlow'⟩ := hexDigit_read (b.toNat % 16) (by omega)
  have hbytes : Utf8.encode (encodeByte b) =
      [0x25, (hexDigit (b.toNat / 16)).toNat.toUInt8, (hexDigit (b.toNat % 16)).toNat.toUInt8] := by
    rw [encodeByte, encode_cons, encode_cons, encode_cons, encodeChar_ascii (by decide),
      encodeChar_ascii hhigh, encodeChar_ascii hlow]
    rfl
  rw [hbytes, List.cons_append, List.cons_append, List.cons_append, List.nil_append, decode,
    if_pos rfl, hhigh', hlow']
  have hvalue : 16 * (b.toNat / 16) + b.toNat % 16 = b.toNat := Nat.div_add_mod _ _
  simp [hvalue]

theorem decode_encodeBytes (bytes rest : List UInt8) :
    decode (Utf8.encode (bytes.flatMap encodeByte) ++ rest) = bytes ++ decode rest := by
  induction bytes with
  | nil => rfl
  | cons b bytes ih =>
    rw [List.flatMap_cons, encode_append, List.append_assoc, decode_encodeByte, ih,
      List.cons_append]

/-- **Percent-encoding can be taken back** if what is kept is of ASCII and no percent sign. -/
theorem decode_encode {keep : Char → Bool} (hkeep : ∀ c, keep c → c.toNat < 0x80 ∧ c ≠ '%')
    (text : List Char) : decode (Utf8.encode (encode keep text)) = Utf8.encode text := by
  induction text with
  | nil => rfl
  | cons c text ih =>
    rw [encode, List.flatMap_cons, ← encode, encode_append, encode_cons]
    by_cases hc : keep c = true
    · obtain ⟨hascii, hpercent⟩ := hkeep c hc
      have hone : Utf8.encode [c] = [c.toNat.toUInt8] := by
        rw [encode_cons, encodeChar_ascii hascii]
        rfl
      have hne : c.toNat.toUInt8 ≠ 0x25 := by
        intro h
        have hnat := congrArg UInt8.toNat h
        rw [Text.Utf8.toNat_toUInt8 (by omega)] at hnat
        exact hpercent (Char.toNat_inj.mp hnat)
      rw [if_pos hc, hone, encodeChar_ascii hascii, List.singleton_append, List.singleton_append,
        decode_cons_of_ne hne, ih]
    · rw [if_neg hc, decode_encodeBytes, ih]

/-- A text is not changed if all of it is kept. -/
theorem encode_of_forall {keep : Char → Bool} {text : List Char} (h : ∀ c ∈ text, keep c = true) :
    encode keep text = text := by
  induction text with
  | nil => rfl
  | cons c text ih =>
    rw [List.forall_mem_cons] at h
    rw [encode, List.flatMap_cons, if_pos h.1, ← encode, ih h.2, List.singleton_append]

end Percent

/-! ## Segments -/

namespace Rest

/-- What a segment is made of. -/
def isSegmentChar (c : Char) : Bool := Percent.isUnreserved c || c == '%'

theorem isUnreserved_ascii {c : Char} (h : Percent.isUnreserved c = true) :
    c.toNat < 0x80 ∧ c ≠ '%' := by
  rw [Percent.isUnreserved, Bool.or_eq_true] at h
  rcases h with h | h
  · refine ⟨toNat_lt_of_isAlphanum h, ?_⟩
    rintro rfl
    cases h
  · simp only [List.contains_eq_mem, List.mem_cons, List.not_mem_nil, or_false,
      decide_eq_true_eq] at h
    rcases h with rfl | rfl | rfl | rfl <;> decide

theorem toNat_lt_of_isSegmentChar {c : Char} (h : isSegmentChar c = true) : c.toNat < 0x80 := by
  rw [isSegmentChar, Bool.or_eq_true, beq_iff_eq] at h
  rcases h with h | rfl
  · exact (isUnreserved_ascii h).1
  · decide

/-- The character stays as it is when an address is read, and no part of a path ends with it. -/
def isInert (c : Char) : Bool :=
  Percent.inPath c && !Url.isSlash true c && !Url.endsPath c && !Url.isEdge c && !Url.isBreak c

theorem isInert_of_isSegmentChar {c : Char} (h : isSegmentChar c = true) : isInert c = true :=
  forall_ascii (P := fun c => isSegmentChar c = true → isInert c = true) (by decide +kernel)
    (toNat_lt_of_isSegmentChar h) h

theorem isUnreserved_hexDigit : ∀ n < 16, Percent.isUnreserved (Percent.hexDigit n) = true := by
  decide

theorem isSegmentChar_of_mem {identifier : String} :
    ∀ c ∈ segment identifier, isSegmentChar c = true := by
  intro c hc
  obtain ⟨d, -, hd⟩ := List.mem_flatMap.mp hc
  by_cases hkeep : Percent.isUnreserved d = true
  · rw [if_pos hkeep, List.mem_singleton] at hd
    rw [hd, isSegmentChar, hkeep, Bool.true_or]
  · rw [if_neg hkeep] at hd
    obtain ⟨b, -, hb⟩ := List.mem_flatMap.mp hd
    have hlt : b.toNat < 256 := b.toNat_lt
    simp only [Percent.encodeByte, List.mem_cons, List.not_mem_nil, or_false] at hb
    rcases hb with rfl | rfl | rfl
    · rfl
    · rw [isSegmentChar, isUnreserved_hexDigit _ (by omega), Bool.true_or]
    · rw [isSegmentChar, isUnreserved_hexDigit _ (by omega), Bool.true_or]

/-- The segment says what the identifier is. -/
theorem decode_segment (identifier : String) :
    Percent.decode (Utf8.encode (segment identifier)) = Utf8.encode identifier.toList :=
  Percent.decode_encode (fun _ => isUnreserved_ascii) _

/-! ## Dots -/

/-- The characters that are the given one in lower case; outside ASCII there are no others. -/
theorem mem_of_toLower {c d : Char} (spellings : List Char) (h : c.toLower = d)
    (hd : d ∈ spellings)
    (hascii : ∀ n < 0x80, (Char.ofNat n).toLower = d → Char.ofNat n ∈ spellings) :
    c ∈ spellings := by
  by_cases hc : c.toNat < 0x80
  · exact forall_ascii (P := fun c => c.toLower = d → c ∈ spellings) hascii hc h
  · have hlower : c.toLower = c := by
      refine dif_neg ?_
      rintro ⟨-, hupper⟩
      exact hc (Nat.lt_of_le_of_lt (UInt32.le_iff_toNat_le.mp hupper) (by decide))
    rwa [← hlower, h]

theorem eq_of_toLower {c d : Char} (h : c.toLower = d)
    (hascii : ∀ n < 0x80, (Char.ofNat n).toLower = d → Char.ofNat n ∈ [d]) : c = d :=
  List.mem_singleton.mp (mem_of_toLower [d] h (List.mem_singleton_self d) hascii)

theorem isDot_iff {segment : List Char} :
    Url.isDot segment = true ↔
      segment.map Char.toLower = ['.'] ∨ segment.map Char.toLower = ['%', '2', 'e'] := by
  simp [Url.isDot, ← String.toList_inj]

/-- One dot, in any spelling, says one dot. -/
theorem decode_of_isDot {segment : List Char} (h : Url.isDot segment = true) (rest : List UInt8) :
    Percent.decode (Utf8.encode segment ++ rest) = 0x2E :: Percent.decode rest := by
  rcases isDot_iff.mp h with h | h
  · obtain ⟨c, _, rfl, hc, h⟩ := List.map_eq_cons_iff.mp h
    obtain rfl := List.map_eq_nil_iff.mp h
    obtain rfl := eq_of_toLower hc (by decide +kernel)
    exact Percent.decode_cons_of_ne (by decide) rest
  · obtain ⟨c, _, rfl, hc, h⟩ := List.map_eq_cons_iff.mp h
    obtain ⟨d, _, rfl, hd, h⟩ := List.map_eq_cons_iff.mp h
    obtain ⟨e, _, rfl, he, h⟩ := List.map_eq_cons_iff.mp h
    obtain rfl := List.map_eq_nil_iff.mp h
    obtain rfl := eq_of_toLower hc (by decide +kernel)
    obtain rfl := eq_of_toLower hd (by decide +kernel)
    have he := mem_of_toLower ['e', 'E'] he (by decide) (by decide +kernel)
    simp only [List.mem_cons, List.not_mem_nil, or_false] at he
    rcases he with rfl | rfl <;> rfl

/-- Two dots, in any spelling, are one dot and another. -/
theorem exists_of_isDoubleDot {segment : List Char} (h : Url.isDoubleDot segment = true) :
    ∃ first second, segment = first ++ second ∧ Url.isDot first = true ∧
      Url.isDot second = true := by
  have hsplit : ∃ first second, segment.map Char.toLower = first ++ second ∧
      (first = ['.'] ∨ first = ['%', '2', 'e']) ∧ (second = ['.'] ∨ second = ['%', '2', 'e']) := by
    simp only [Url.isDoubleDot, List.contains_eq_mem, List.mem_cons, List.not_mem_nil, or_false,
      decide_eq_true_eq, ← String.toList_inj, String.toList_ofList] at h
    rcases h with h | h | h | h
    · exact ⟨['.'], ['.'], h, .inl rfl, .inl rfl⟩
    · exact ⟨['.'], ['%', '2', 'e'], h, .inl rfl, .inr rfl⟩
    · exact ⟨['%', '2', 'e'], ['.'], h, .inr rfl, .inl rfl⟩
    · exact ⟨['%', '2', 'e'], ['%', '2', 'e'], h, .inr rfl, .inr rfl⟩
  obtain ⟨_, _, h, hfirst, hsecond⟩ := hsplit
  obtain ⟨first, second, rfl, rfl, rfl⟩ := List.map_eq_append_iff.mp h
  exact ⟨first, second, rfl, isDot_iff.mpr hfirst, isDot_iff.mpr hsecond⟩

/-- Only the identifier of one dot is taken for one. -/
theorem isDot_segment {identifier : String} (h : identifier ≠ ".") :
    Url.isDot (segment identifier) = false := by
  rw [Bool.eq_false_iff]
  intro hdot
  have hdecode := decode_of_isDot hdot []
  rw [List.append_nil, decode_segment] at hdecode
  exact h (String.toList_inj.mp (Text.Utf8.encode_injective hdecode))

/-- Only the identifier of two dots is taken for them. -/
theorem isDoubleDot_segment {identifier : String} (h : identifier ≠ "..") :
    Url.isDoubleDot (segment identifier) = false := by
  rw [Bool.eq_false_iff]
  intro hdots
  obtain ⟨first, second, hsegment, hfirst, hsecond⟩ := exists_of_isDoubleDot hdots
  have hdecode := decode_segment identifier
  have hdot := decode_of_isDot hsecond []
  rw [List.append_nil] at hdot
  rw [hsegment, encode_append, decode_of_isDot hfirst, hdot] at hdecode
  exact h (String.toList_inj.mp (Text.Utf8.encode_injective hdecode.symm))

end Rest

end OpenPulls
