import OpenPulls.Json.Decode
import OpenPulls.Json.Tree

/-!
# Written strings

A string that was written is read back, whatever follows it, and it can be skipped. Both go
character by character: what is written for one is read, or passed over, in one step
(`stringFrom_writtenChar`, `skipString_writtenChar`).
-/

namespace OpenPulls.Json

open OpenPulls.Text (Symbol)

/-- The symbols of some characters. -/
def symbolsOf (text : List Char) : List Symbol := text.map .char

@[simp] theorem symbolsOf_nil : symbolsOf [] = [] := rfl

@[simp] theorem symbolsOf_cons (c : Char) (text : List Char) :
    symbolsOf (c :: text) = .char c :: symbolsOf text := rfl

@[simp] theorem symbolsOf_append (text text' : List Char) :
    symbolsOf (text ++ text') = symbolsOf text ++ symbolsOf text' := List.map_append

theorem word_symbolsOf (text : List Char) (rest : List Symbol) :
    word text (symbolsOf text ++ rest) = .ok rest := by
  induction text with
  | nil => rfl
  | cons c text ih => rw [symbolsOf_cons, List.cons_append, word, if_pos rfl, ih]

/-- Something is made of what follows a word. -/
theorem word_then {β : Type} (f : List Symbol → β) (text : List Char) (rest : List Symbol) :
    (do return f (← word text (symbolsOf text ++ rest)) : Except Error β) = .ok (f rest) := by
  rw [word_symbolsOf]
  rfl

/-! ## Escapes -/

theorem hexValue?_hexDigit : ∀ n < 16, hexValue? (hexDigit n) = some n := by decide

theorem utf8Size_hexDigit : ∀ n < 16, (hexDigit n).utf8Size = 1 := by decide

/-- The digits that are written for a control character are read as its code. -/
theorem hexEscape_control {n : Nat} (h : n < 0x20) (rest : List Symbol) :
    hexEscape (.char '0' :: .char '0' :: .char (hexDigit (n / 16)) :: .char (hexDigit (n % 16))
      :: rest) = .ok (n, rest) := by
  have hhigh : n / 16 < 16 := by omega
  have hlow : n % 16 < 16 := by omega
  have hzero : '0'.utf8Size = 1 := by decide
  have hvalue : hexValue? '0' = some 0 := by decide
  simp only [hexEscape, List.take_succ_cons, List.take_zero, List.foldl_cons, List.foldl_nil,
    Symbol.byteCount, hzero, utf8Size_hexDigit _ hhigh, utf8Size_hexDigit _ hlow, hvalue,
    hexValue?_hexDigit _ hhigh, hexValue?_hexDigit _ hlow]
  rw [if_neg (by decide)]
  congr 2
  omega

theorem numericEscape_control {c : Char} (h : c.toNat < 0x20) (rest : List Symbol) :
    numericEscape (.char '0' :: .char '0' :: .char (hexDigit (c.toNat / 16))
      :: .char (hexDigit (c.toNat % 16)) :: rest) = .ok (c, rest) := by
  have hlow : (decide (0xDC00 ≤ c.toNat) && decide (c.toNat ≤ 0xDFFF)) = false := by
    simp only [Bool.and_eq_false_iff, decide_eq_false_iff_not]
    omega
  have hhigh : (decide (0xD800 ≤ c.toNat) && decide (c.toNat ≤ 0xDBFF)) = false := by
    simp only [Bool.and_eq_false_iff, decide_eq_false_iff_not]
    omega
  simp only [numericEscape, hexEscape_control h, bind, Except.bind, hlow, hhigh, pure, Except.pure,
    Char.ofNat_toNat, Bool.false_eq_true, if_false]

/-! ## Characters -/

/-- How a character is written: with a short escape, with a numeric one, or as it is. -/
theorem writtenChar_cases (c : Char) :
    (∃ letter, writtenChar c = ['\\', letter] ∧ shortEscape? letter = some c) ∨
    (c.toNat < 0x20 ∧ writtenChar c =
      ['\\', 'u', '0', '0', hexDigit (c.toNat / 16), hexDigit (c.toNat % 16)]) ∨
    (c ≠ '"' ∧ c ≠ '\\' ∧ ¬ c.toNat < 0x20 ∧ writtenChar c = [c]) := by
  fun_cases writtenChar c with
  | case8 c h => exact .inr (.inl ⟨h, if_pos h⟩)
  | case9 c h hquote hslash => exact .inr (.inr ⟨hquote, hslash, h, if_neg h⟩)
  | _ => exact .inl ⟨_, rfl, rfl⟩

section Read

variable (read : List Char) (clean : Bool) (rest : List Symbol)

theorem stringFrom_escape {more : List Symbol} {c : Char} (h : escape more = .ok (c, rest))
    (hlt : rest.length < more.length) :
    stringFrom read clean (.char '\\' :: more) = stringFrom (c :: read) clean rest := by
  rw [stringFrom]
  simp only [h, dif_pos hlt]

theorem stringFrom_plain {c : Char} (hquote : c ≠ '"') (hslash : c ≠ '\\')
    (hc : ¬ c.toNat < 0x20) :
    stringFrom read clean (.char c :: rest) = stringFrom (c :: read) clean rest := by
  rw [stringFrom, if_neg hc]
  · simpa using hquote
  · simpa using hslash

theorem escape_letter {letter c : Char} (h : shortEscape? letter = some c) :
    escape (.char letter :: rest) = .ok (c, rest) := by
  rw [escape, h]
  rintro ⟨⟩
  cases h

theorem stringFrom_writtenChar (c : Char) :
    stringFrom read clean (symbolsOf (writtenChar c) ++ rest) =
      stringFrom (c :: read) clean rest := by
  rcases writtenChar_cases c with ⟨letter, hw, h⟩ | ⟨h, hw⟩ | ⟨hquote, hslash, h, hw⟩
  · rw [hw]
    exact stringFrom_escape read clean rest (escape_letter rest h) (Nat.lt_succ_self _)
  · rw [hw]
    have hlt : rest.length < rest.length + 5 := by omega
    exact stringFrom_escape read clean rest (numericEscape_control h rest) hlt
  · rw [hw]
    exact stringFrom_plain read clean rest hquote hslash h

theorem stringFrom_written (text : List Char) :
    stringFrom read true (symbolsOf (text.flatMap writtenChar ++ ['"']) ++ rest) =
      .ok (String.ofList (read.reverse ++ text), rest) := by
  induction text generalizing read with
  | nil =>
    rw [List.append_nil]
    show stringFrom read true (.char '"' :: rest) = _
    rw [stringFrom, if_pos rfl]
  | cons c text ih =>
    rw [List.flatMap_cons, List.append_assoc, symbolsOf_append, List.append_assoc,
      stringFrom_writtenChar, ih, List.reverse_cons, List.append_assoc, List.singleton_append]

/-- **A written string is read back.** -/
theorem string_written (s : String) :
    string (symbolsOf (s.toList.flatMap writtenChar ++ ['"']) ++ rest) = .ok (s, rest) := by
  rw [string, stringFrom_written, List.reverse_nil, List.nil_append, String.ofList_toList]

end Read

section Skip

variable (rest : List Symbol)

theorem skipString_writtenChar (c : Char) :
    skipString (symbolsOf (writtenChar c) ++ rest) = skipString rest := by
  rcases writtenChar_cases c with ⟨letter, hw, h⟩ | ⟨h, hw⟩ | ⟨hquote, hslash, h, hw⟩
  · rw [hw]
    show skipString (.char '\\' :: .char letter :: rest) = _
    rw [skipString, h, Option.isSome_some, if_pos rfl]
    rintro ⟨⟩
    cases h
  · rw [hw]
    show skipString (.char '\\' :: .char 'u' :: .char '0' :: .char '0' :: .char _ :: .char _ :: rest)
      = _
    rw [skipString]
    simp only [hexEscape_control h, List.length_cons]
    rw [dif_pos (by omega)]
  · rw [hw]
    show skipString (.char c :: rest) = _
    rw [skipString, if_neg h]
    · simpa using hquote
    all_goals simp [hslash]

/-- A written string is passed over. -/
theorem skipString_written (text : List Char) :
    skipString (symbolsOf (text.flatMap writtenChar ++ ['"']) ++ rest) = .ok rest := by
  induction text with
  | nil =>
    show skipString (.char '"' :: rest) = _
    rw [skipString]
  | cons c text ih =>
    rw [List.flatMap_cons, List.append_assoc, symbolsOf_append, List.append_assoc,
      skipString_writtenChar, ih]

end Skip

end OpenPulls.Json
