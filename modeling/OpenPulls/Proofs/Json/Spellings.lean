import OpenPulls.Proofs.Encoding
import OpenPulls.Proofs.Json.Values

/-!
# Spellings of strings and names

A string has many spellings in JSON. Most characters may stand for themselves, some have a letter
of their own behind a backslash, and each can be given by the codes of sixteen bits that it has in
UTF-16, in digits of either case.

* `SpellsString`: the spellings of a string.
* `SpellsVariant`: the spellings of the name of a variant, with blanks between its parts.
* `string_eq_ok_iff`, `decode_variant_eq_ok_iff`: exactly these are read, each as what it spells. A
  text with a stray byte is none of them.

Reading goes one character at a time (`stringFrom_spelled`). The other way round, what has been read
without an error was a spelling (`spells_of_stringFrom`); the induction is on the text that is left.
-/

namespace OpenPulls.Json

open OpenPulls.Text (Symbol)

/-! ## Spellings -/

/-- The characters with a letter of their own behind a backslash, after that letter. -/
def letters : List (Char × Char) :=
  [('"', '"'), ('\\', '\\'), ('/', '/'), ('b', '\x08'), ('f', '\x0c'), ('n', '\n'), ('r', '\r'),
    ('t', '\t')]

/-- A digit in base sixteen, in either case. -/
def IsHexDigit (c : Char) (n : Nat) : Prop :=
  n < 16 ∧ (c = Nat.digitChar n ∨ c = (Nat.digitChar n).toUpper)

/-- Four digits in base sixteen with their number. -/
inductive SpellsCode : List Char → Nat → Prop where
  | digits {a b c d : Char} {i j k l : Nat} (ha : IsHexDigit a i) (hb : IsHexDigit b j)
      (hc : IsHexDigit c k) (hd : IsHexDigit d l) :
      SpellsCode [a, b, c, d] (((i * 16 + j) * 16 + k) * 16 + l)

/-- A character as it may stand in a string: as itself, as a letter, as one code, or, beyond sixteen
bits, as the two codes of a surrogate pair. -/
inductive SpellsChar : List Char → Char → Prop where
  | plain {c : Char} (hquote : c ≠ '"') (hslash : c ≠ '\\') (hcontrol : 0x20 ≤ c.toNat) :
      SpellsChar [c] c
  | letter {l c : Char} (h : (l, c) ∈ letters) : SpellsChar ['\\', l] c
  | code {digits : List Char} {c : Char} (h : SpellsCode digits c.toNat) :
      SpellsChar ('\\' :: 'u' :: digits) c
  | pair {high low : List Char} {c : Char} (hc : 0x10000 ≤ c.toNat)
      (hhigh : SpellsCode high (0xD800 + (c.toNat - 0x10000) / 0x400))
      (hlow : SpellsCode low (0xDC00 + (c.toNat - 0x10000) % 0x400)) :
      SpellsChar ('\\' :: 'u' :: high ++ '\\' :: 'u' :: low) c

/-- Characters as they may stand in a string, one after the other. -/
inductive SpellsChars : List Char → List Char → Prop where
  | nil : SpellsChars [] []
  | cons {piece more : List Char} {c : Char} {cs : List Char} (h : SpellsChar piece c)
      (hs : SpellsChars more cs) : SpellsChars (piece ++ more) (c :: cs)

/-- A string between its quotes. -/
inductive SpellsString : List Char → String → Prop where
  | quoted {inner : List Char} {s : String} (h : SpellsChars inner s.toList) :
      SpellsString ('"' :: inner ++ ['"']) s

/-- The name of a variant: a string, or an object with the name as its only key and the word for
nothing as its value. -/
inductive SpellsVariant : List Char → String → Prop where
  | string {text : List Char} {name : String} (h : SpellsString text name) :
      SpellsVariant text name
  | object {gap₁ gap₂ gap₃ gap₄ key : List Char} {name : String} (h : SpellsString key name)
      (h₁ : Blanks gap₁) (h₂ : Blanks gap₂) (h₃ : Blanks gap₃) (h₄ : Blanks gap₄) :
      SpellsVariant ('\x7b' :: gap₁ ++ key ++ gap₂ ++ ':' :: gap₃ ++ ['n', 'u', 'l', 'l'] ++ gap₄ ++
        ['\x7d']) name

/-! ## Codes -/

section Codes

variable {text rest : List Symbol}

theorem hexValue?_eq_some_iff {c : Char} {n : Nat} : hexValue? c = some n ↔ IsHexDigit c n := by
  constructor
  · intro h
    have hc : c.toNat < 0x80 := by
      unfold hexValue? at h
      have hle (d : Char) (hd : d.toNat < 0x80) (hcd : c ≤ d) : c.toNat < 0x80 :=
        Nat.lt_of_le_of_lt (UInt32.le_iff_toNat_le.mp hcd) hd
      split at h
      next hdigit =>
        simp only [Char.isDigit, Bool.and_eq_true, decide_eq_true_eq] at hdigit
        exact hle '9' (by decide) hdigit.2
      next =>
        split at h
        next hlower =>
          simp only [Bool.and_eq_true, decide_eq_true_eq] at hlower
          exact hle 'f' (by decide) hlower.2
        next =>
          split at h
          next hupper =>
            simp only [Bool.and_eq_true, decide_eq_true_eq] at hupper
            exact hle 'F' (by decide) hupper.2
          next => cases h
    have hall : ∀ m < 0x80, (hexValue? (Char.ofNat m)).all fun n => decide (n < 16) &&
        (Char.ofNat m == Nat.digitChar n || Char.ofNat m == (Nat.digitChar n).toUpper) := by
      decide +kernel
    have hn := forall_ascii (P := fun c => (hexValue? c).all fun n => decide (n < 16) &&
      (c == Nat.digitChar n || c == (Nat.digitChar n).toUpper)) hall hc
    simpa [h, IsHexDigit] using hn
  · rintro ⟨hn, rfl | rfl⟩
    · exact (show ∀ n < 16, hexValue? (Nat.digitChar n) = some n by decide) n hn
    · exact (show ∀ n < 16, hexValue? (Nat.digitChar n).toUpper = some n by decide) n hn

theorem utf8Size_of_isHexDigit {c : Char} {n : Nat} (h : IsHexDigit c n) : c.utf8Size = 1 := by
  obtain ⟨hn, rfl | rfl⟩ := h
  · exact (show ∀ n < 16, (Nat.digitChar n).utf8Size = 1 by decide) n hn
  · exact (show ∀ n < 16, (Nat.digitChar n).toUpper.utf8Size = 1 by decide) n hn

theorem SpellsCode.lt {digits : List Char} {n : Nat} (h : SpellsCode digits n) : n < 0x10000 := by
  cases h with
  | digits ha hb hc hd =>
    have hi := ha.1
    have hj := hb.1
    have hk := hc.1
    have hl := hd.1
    omega

theorem hexEscape_eq_ok_iff {n : Nat} :
    hexEscape text = .ok (n, rest) ↔
      ∃ digits, SpellsCode digits n ∧ text = symbolsOf digits ++ rest := by
  constructor
  · intro h
    unfold hexEscape at h
    split at h
    · cases h
    · split at h
      next a b c d more _ =>
        split at h
        next i j k l ha hb hc hd =>
          cases h
          exact ⟨[a, b, c, d], .digits (hexValue?_eq_some_iff.mp ha)
            (hexValue?_eq_some_iff.mp hb) (hexValue?_eq_some_iff.mp hc)
            (hexValue?_eq_some_iff.mp hd), rfl⟩
        next => cases h
      next => cases h
  · rintro ⟨_, ⟨ha, hb, hc, hd⟩, rfl⟩
    simp only [hexEscape, symbolsOf_cons, symbolsOf_nil, List.cons_append, List.nil_append,
      List.take_succ_cons, List.take_zero, List.foldl_cons, List.foldl_nil, Symbol.byteCount,
      utf8Size_of_isHexDigit ha, utf8Size_of_isHexDigit hb, utf8Size_of_isHexDigit hc,
      utf8Size_of_isHexDigit hd, hexValue?_eq_some_iff.mpr ha, hexValue?_eq_some_iff.mpr hb,
      hexValue?_eq_some_iff.mpr hc, hexValue?_eq_some_iff.mpr hd]
    rfl

theorem lowSurrogate_eq_ok_iff {n : Nat} :
    lowSurrogate text = .ok (n, rest) ↔ n < 0x400 ∧
      ∃ digits, SpellsCode digits (0xDC00 + n) ∧
        text = symbolsOf ('\\' :: 'u' :: digits) ++ rest := by
  constructor
  · intro h
    unfold lowSurrogate at h
    split at h
    · cases h
    · cases h
    next more =>
      obtain ⟨⟨m, more'⟩, hm, h⟩ := bind_eq_ok.mp h
      simp only [] at h
      split at h
      next hrange =>
        simp only [Bool.and_eq_true, decide_eq_true_eq] at hrange
        simp only [pure, Except.pure, Except.ok.injEq, Prod.mk.injEq] at h
        obtain ⟨rfl, rfl⟩ := h
        obtain ⟨digits, hdigits, rfl⟩ := hexEscape_eq_ok_iff.mp hm
        refine ⟨by omega, digits, ?_, rfl⟩
        rwa [Nat.add_sub_cancel' hrange.1]
      next => cases h
    · cases h
  · rintro ⟨hn, digits, hdigits, rfl⟩
    refine bind_eq_ok.mpr ⟨_, hexEscape_eq_ok_iff.mpr ⟨digits, hdigits, rfl⟩, ?_⟩
    show (if _ then _ else _) = _
    rw [if_pos (by simp; omega), Nat.add_sub_cancel_left]
    rfl

theorem toNat_ofNat_of_isValidChar {n : Nat} (h : n.isValidChar) : (Char.ofNat n).toNat = n := by
  rw [Char.ofNat, dif_pos h]
  rfl

/-- Codes of sixteen bits are one character, alone or as a pair. -/
theorem numericEscape_eq_ok_iff {c : Char} :
    numericEscape text = .ok (c, rest) ↔
      ∃ spelled, SpellsChar ('\\' :: 'u' :: spelled) c ∧ text = symbolsOf spelled ++ rest := by
  constructor
  · intro h
    obtain ⟨⟨n, more⟩, hn, hchar⟩ := bind_eq_ok.mp h
    obtain ⟨digits, hdigits, rfl⟩ := hexEscape_eq_ok_iff.mp hn
    have hlt := hdigits.lt
    dsimp only at hchar
    split at hchar
    · cases hchar
    next hlow =>
      simp only [Bool.and_eq_true, decide_eq_true_eq] at hlow
      split at hchar
      next hhigh =>
        simp only [Bool.and_eq_true, decide_eq_true_eq] at hhigh
        obtain ⟨⟨m, more⟩, hm, hpair⟩ := bind_eq_ok.mp hchar
        simp only [pure, Except.pure, Except.ok.injEq, Prod.mk.injEq] at hpair
        obtain ⟨rfl, rfl⟩ := hpair
        obtain ⟨hm, low, hspells, rfl⟩ := lowSurrogate_eq_ok_iff.mp hm
        have hc : (Char.ofNat (0x10000 + (n - 0xD800) * 0x400 + m)).toNat =
            0x10000 + (n - 0xD800) * 0x400 + m :=
          toNat_ofNat_of_isValidChar (.inr ⟨by omega, by omega⟩)
        refine ⟨digits ++ '\\' :: 'u' :: low, .pair (by omega) ?_ ?_, by simp⟩
        · rwa [hc, show 0xD800 + (0x10000 + (n - 0xD800) * 0x400 + m - 0x10000) / 0x400 = n by
            omega]
        · rwa [hc, show (0x10000 + (n - 0xD800) * 0x400 + m - 0x10000) % 0x400 = m by omega]
      next hhigh =>
        simp only [Bool.and_eq_true, decide_eq_true_eq] at hhigh
        simp only [pure, Except.pure, Except.ok.injEq, Prod.mk.injEq] at hchar
        obtain ⟨rfl, rfl⟩ := hchar
        have hvalid : n.isValidChar := by
          by_cases hn : n < 0xD800
          · exact .inl hn
          · exact .inr ⟨by omega, by omega⟩
        have hc := toNat_ofNat_of_isValidChar hvalid
        exact ⟨digits, .code (by rwa [hc]), rfl⟩
  · rintro ⟨spelled, h, rfl⟩
    have hvalid : c.toNat < 0xD800 ∨ 0xDFFF < c.toNat ∧ c.toNat < 0x110000 := c.valid
    cases h with
    | letter h => simp [letters] at h
    | code h =>
      have hlt := h.lt
      refine bind_eq_ok.mpr ⟨_, hexEscape_eq_ok_iff.mpr ⟨_, h, rfl⟩, ?_⟩
      simp only [Bool.and_eq_true, decide_eq_true_eq]
      rw [if_neg (by omega), if_neg (by omega), Char.ofNat_toNat]
      rfl
    | @pair high low _ hc hhigh hlow =>
      have hlt := hhigh.lt
      have hcodes : symbolsOf (high ++ '\\' :: 'u' :: low) ++ rest =
          symbolsOf high ++ (symbolsOf ('\\' :: 'u' :: low) ++ rest) := by
        rw [symbolsOf_append, List.append_assoc]
      refine bind_eq_ok.mpr ⟨_, hexEscape_eq_ok_iff.mpr ⟨_, hhigh, hcodes⟩, ?_⟩
      simp only [Bool.and_eq_true, decide_eq_true_eq]
      rw [if_neg (by omega), if_pos (by omega)]
      refine bind_eq_ok.mpr ⟨(_, rest), lowSurrogate_eq_ok_iff.mpr ⟨by omega, low, hlow, rfl⟩, ?_⟩
      show Except.ok (Char.ofNat _, rest) = _
      rw [show 0x10000 + (0xD800 + (c.toNat - 0x10000) / 0x400 - 0xD800) * 0x400 +
        (c.toNat - 0x10000) % 0x400 = c.toNat by omega, Char.ofNat_toNat]

theorem shortEscape?_eq_some_iff {l c : Char} : shortEscape? l = some c ↔ (l, c) ∈ letters := by
  constructor
  · intro h
    unfold shortEscape? at h
    split at h
    all_goals first | cases h; done | (cases h; decide)
  · intro h
    simp only [letters, List.mem_cons, List.not_mem_nil, or_false, Prod.mk.injEq] at h
    rcases h with ⟨rfl, rfl⟩ | ⟨rfl, rfl⟩ | ⟨rfl, rfl⟩ | ⟨rfl, rfl⟩ | ⟨rfl, rfl⟩ | ⟨rfl, rfl⟩ |
      ⟨rfl, rfl⟩ | ⟨rfl, rfl⟩
    all_goals rfl

theorem escape_eq_ok_iff {c : Char} :
    escape text = .ok (c, rest) ↔
      ∃ spelled, SpellsChar ('\\' :: spelled) c ∧ text = symbolsOf spelled ++ rest := by
  constructor
  · intro h
    unfold escape at h
    split at h
    · cases h
    · obtain ⟨spelled, hspells, rfl⟩ := numericEscape_eq_ok_iff.mp h
      exact ⟨'u' :: spelled, hspells, rfl⟩
    next l more _ =>
      split at h
      next d hd =>
        cases h
        exact ⟨[l], .letter (shortEscape?_eq_some_iff.mp hd), rfl⟩
      next => cases h
    · cases h
  · rintro ⟨spelled, h, rfl⟩
    cases h with
    | plain _ hslash => exact absurd rfl hslash
    | letter h => exact escape_letter rest (shortEscape?_eq_some_iff.mpr h)
    | code h => exact numericEscape_eq_ok_iff.mpr ⟨_, .code h, rfl⟩
    | pair hc hhigh hlow => exact numericEscape_eq_ok_iff.mpr ⟨_, .pair hc hhigh hlow, rfl⟩

end Codes

/-! ## Strings -/

section Strings

variable {text rest : List Symbol} {s : String}

/-- A spelled character is read in one step. -/
theorem stringFrom_spelled {piece : List Char} {c : Char} (h : SpellsChar piece c)
    (read : List Char) (clean : Bool) (rest : List Symbol) :
    stringFrom read clean (symbolsOf piece ++ rest) = stringFrom (c :: read) clean rest := by
  have hescape {spelled : List Char} (h : SpellsChar ('\\' :: spelled) c) (hne : spelled ≠ []) :
      stringFrom read clean (symbolsOf ('\\' :: spelled) ++ rest) =
        stringFrom (c :: read) clean rest := by
    refine stringFrom_escape read clean rest (escape_eq_ok_iff.mpr ⟨spelled, h, rfl⟩) ?_
    simp [List.length_pos_of_ne_nil hne]
  cases h with
  | plain hquote hslash hcontrol =>
    exact stringFrom_plain read clean rest hquote hslash (Nat.not_lt.mpr hcontrol)
  | letter h => exact hescape (.letter h) (List.cons_ne_nil _ _)
  | code h => exact hescape (.code h) (List.cons_ne_nil _ _)
  | pair hc hhigh hlow => exact hescape (.pair hc hhigh hlow) (List.cons_ne_nil _ _)

theorem stringFrom_spelledAll {inner cs : List Char} (h : SpellsChars inner cs)
    (read : List Char) (rest : List Symbol) :
    stringFrom read true (symbolsOf inner ++ .char '"' :: rest) =
      .ok (String.ofList (read.reverse ++ cs), rest) := by
  induction h generalizing read with
  | nil =>
    rw [symbolsOf_nil, List.nil_append, List.append_nil, stringFrom, if_pos rfl]
  | cons h _ ih =>
    rw [symbolsOf_append, List.append_assoc, stringFrom_spelled h, ih, List.reverse_cons,
      List.append_assoc, List.singleton_append]

/-- What was read without an error was spelled. -/
theorem spells_of_stringFrom {read : List Char} {clean : Bool}
    (h : stringFrom read clean text = .ok (s, rest)) :
    clean = true ∧ ∃ inner cs, SpellsChars inner cs ∧ text = symbolsOf inner ++ .char '"' :: rest ∧
      s = String.ofList (read.reverse ++ cs) := by
  fun_induction stringFrom read clean text with
  | case1 => cases h
  | case2 read clean more ih => cases (ih h).1
  | case3 read more =>
    cases h
    exact ⟨rfl, [], [], .nil, rfl, by rw [List.append_nil]⟩
  | case4 => cases h
  | case5 => cases h
  | case6 read clean more c more' hc hlt ih =>
    obtain ⟨hclean, inner, cs, hspells, rfl, rfl⟩ := ih h
    obtain ⟨spelled, hspelled, rfl⟩ := escape_eq_ok_iff.mp hc
    refine ⟨hclean, '\\' :: spelled ++ inner, c :: cs, .cons hspelled hspells, by simp, by simp⟩
  | case7 => cases h
  | case8 => cases h
  | case9 read clean c more hquote hslash hcontrol ih =>
    obtain ⟨hclean, inner, cs, hspells, rfl, rfl⟩ := ih h
    have hplain : SpellsChar [c] c := .plain hquote hslash (Nat.not_lt.mp hcontrol)
    exact ⟨hclean, [c] ++ inner, c :: cs, .cons hplain hspells, rfl, by simp⟩

/-- **A string is read exactly as it is spelled.** -/
theorem string_eq_ok_iff :
    string text = .ok (s, rest) ↔
      ∃ inner, SpellsChars inner s.toList ∧ text = symbolsOf inner ++ .char '"' :: rest := by
  constructor
  · intro h
    obtain ⟨-, inner, cs, hspells, htext, rfl⟩ := spells_of_stringFrom h
    refine ⟨inner, ?_, htext⟩
    rwa [List.reverse_nil, List.nil_append, String.toList_ofList]
  · rintro ⟨inner, hspells, rfl⟩
    rw [string, stringFrom_spelledAll hspells, List.reverse_nil, List.nil_append,
      String.ofList_toList]

end Strings

/-! ## Names of variants -/

section Variants

variable {text rest : List Symbol} {name : String}

/-- The blanks that are skipped are blanks. -/
theorem exists_blanks (text : List Symbol) :
    ∃ gap, Blanks gap ∧ text = symbolsOf gap ++ skipBlanks text := by
  induction text with
  | nil => exact ⟨[], blanks_nil, rfl⟩
  | cons s text ih =>
    obtain ⟨gap, hgap, htext⟩ := ih
    by_cases hs : isBlank s = true
    · cases s with
      | stray => cases hs
      | char c =>
        refine ⟨c :: gap, List.forall_mem_cons.mpr ⟨hs, hgap⟩, ?_⟩
        rw [skipBlanks, List.dropWhile_cons_of_pos hs, symbolsOf_cons, List.cons_append]
        exact congrArg _ htext
    · refine ⟨[], blanks_nil, ?_⟩
      rw [skipBlanks, List.dropWhile_cons_of_neg hs, symbolsOf_nil, List.nil_append]

/-- What is read behind blanks begins at the first symbol that is none. -/
theorem skipBlanks_eq_cons_iff {c : Char} (hc : isBlank (.char c) = false) :
    skipBlanks text = .char c :: rest ↔
      ∃ gap, Blanks gap ∧ text = symbolsOf gap ++ .char c :: rest := by
  constructor
  · intro h
    obtain ⟨gap, hgap, htext⟩ := exists_blanks text
    exact ⟨gap, hgap, h ▸ htext⟩
  · rintro ⟨gap, hgap, rfl⟩
    rw [skipBlanks_symbolsOf hgap, skipBlanks, List.dropWhile_cons_of_neg (by simp [hc])]

theorem word_eq_ok_iff {cs : List Char} : word cs text = .ok rest ↔ text = symbolsOf cs ++ rest := by
  constructor
  · intro h
    induction cs generalizing text with
    | nil =>
      cases h
      rfl
    | cons c cs ih =>
      cases text with
      | nil => cases h
      | cons s text =>
        rw [word] at h
        split at h
        next hs => rw [ih h, hs, symbolsOf_cons, List.cons_append]
        next => cases h
  · rintro rfl
    exact word_symbolsOf cs rest

theorem colon_eq_ok_iff :
    Fields.colon text = .ok rest ↔
      ∃ gap, Blanks gap ∧ text = symbolsOf gap ++ .char ':' :: rest := by
  rw [← skipBlanks_eq_cons_iff rfl, Fields.colon]
  split <;> simp_all

theorem endObject_eq_ok_iff_gap :
    Fields.endObject text = .ok rest ↔
      ∃ gap, Blanks gap ∧ text = symbolsOf gap ++ .char '\x7d' :: rest := by
  rw [← skipBlanks_eq_cons_iff rfl, Fields.endObject]
  split <;> simp_all

theorem unit_eq_ok_iff :
    unit text = .ok ((), rest) ↔
      ∃ gap, Blanks gap ∧ text = symbolsOf (gap ++ ['n', 'u', 'l', 'l']) ++ rest := by
  constructor
  · intro h
    unfold unit at h
    split at h
    · cases h
    next hskip =>
      obtain ⟨more, hmore, h⟩ := bind_eq_ok.mp h
      cases h
      obtain ⟨gap, hgap, rfl⟩ := (skipBlanks_eq_cons_iff rfl).mp hskip
      exact ⟨gap, hgap, by simp [word_eq_ok_iff.mp hmore]⟩
    · cases h
  · rintro ⟨gap, hgap, rfl⟩
    have hskip : skipBlanks (symbolsOf (gap ++ ['n', 'u', 'l', 'l']) ++ rest) =
        .char 'n' :: (symbolsOf ['u', 'l', 'l'] ++ rest) :=
      (skipBlanks_eq_cons_iff rfl).mpr ⟨gap, hgap, by simp⟩
    rw [unit, hskip]
    exact word_then ((), ·) ['u', 'l', 'l'] rest

/-- **The name of a variant is read exactly as it is spelled.** -/
theorem variant_eq_ok_iff :
    variant text = .ok (name, rest) ↔
      ∃ gap spelled, Blanks gap ∧ SpellsVariant spelled name ∧
        text = symbolsOf (gap ++ spelled) ++ rest := by
  constructor
  · intro h
    unfold variant at h
    split at h
    · cases h
    next hskip =>
      obtain ⟨gap, hgap, rfl⟩ := (skipBlanks_eq_cons_iff rfl).mp hskip
      obtain ⟨inner, hinner, rfl⟩ := string_eq_ok_iff.mp h
      exact ⟨gap, _, hgap, .string (.quoted hinner), by simp⟩
    next hskip =>
      obtain ⟨gap, hgap, rfl⟩ := (skipBlanks_eq_cons_iff rfl).mp hskip
      split at h
      · cases h
      next hskip' =>
        obtain ⟨gap₁, h₁, rfl⟩ := (skipBlanks_eq_cons_iff rfl).mp hskip'
        obtain ⟨⟨name', text₂⟩, hname, h⟩ := bind_eq_ok.mp h
        obtain ⟨text₃, hcolon, h⟩ := bind_eq_ok.mp h
        obtain ⟨⟨⟨⟩, text₄⟩, hunit, h⟩ := bind_eq_ok.mp h
        obtain ⟨text₅, hend, h⟩ := bind_eq_ok.mp h
        cases h
        obtain ⟨inner, hinner, rfl⟩ := string_eq_ok_iff.mp hname
        obtain ⟨gap₂, h₂, rfl⟩ := colon_eq_ok_iff.mp hcolon
        obtain ⟨gap₃, h₃, rfl⟩ := unit_eq_ok_iff.mp hunit
        obtain ⟨gap₄, h₄, rfl⟩ := endObject_eq_ok_iff_gap.mp hend
        exact ⟨gap, _, hgap, .object (.quoted hinner) h₁ h₂ h₃ h₄, by simp⟩
      · cases h
    · cases h
  · rintro ⟨gap, spelled, hgap, h, rfl⟩
    cases h with
    | string h =>
      obtain ⟨hinner⟩ := h
      rename_i inner
      have hskip : skipBlanks (symbolsOf (gap ++ ('"' :: inner ++ ['"'])) ++ rest) =
          .char '"' :: (symbolsOf inner ++ .char '"' :: rest) :=
        (skipBlanks_eq_cons_iff rfl).mpr ⟨gap, hgap, by simp⟩
      rw [variant, hskip]
      exact string_eq_ok_iff.mpr ⟨inner, hinner, rfl⟩
    | @object gap₁ gap₂ gap₃ gap₄ _ _ h h₁ h₂ h₃ h₄ =>
      obtain ⟨hinner⟩ := h
      rename_i inner
      let text₄ := symbolsOf gap₄ ++ .char '\x7d' :: rest
      let text₃ := symbolsOf (gap₃ ++ ['n', 'u', 'l', 'l']) ++ text₄
      let text₂ := symbolsOf gap₂ ++ .char ':' :: text₃
      let text₁ := symbolsOf inner ++ .char '"' :: text₂
      have hskip : skipBlanks (symbolsOf (gap ++ ('\x7b' :: gap₁ ++ ('"' :: inner ++ ['"']) ++ gap₂ ++
          ':' :: gap₃ ++ ['n', 'u', 'l', 'l'] ++ gap₄ ++ ['\x7d'])) ++ rest) =
            .char '\x7b' :: (symbolsOf gap₁ ++ .char '"' :: text₁) :=
        (skipBlanks_eq_cons_iff rfl).mpr ⟨gap, hgap, by simp [text₁, text₂, text₃, text₄]⟩
      have hquote : skipBlanks (symbolsOf gap₁ ++ .char '"' :: text₁) = .char '"' :: text₁ :=
        (skipBlanks_eq_cons_iff rfl).mpr ⟨gap₁, h₁, rfl⟩
      rw [variant, hskip]
      simp only [hquote]
      refine bind_eq_ok.mpr ⟨(name, text₂), string_eq_ok_iff.mpr ⟨inner, hinner, rfl⟩, ?_⟩
      refine bind_eq_ok.mpr ⟨text₃, colon_eq_ok_iff.mpr ⟨gap₂, h₂, rfl⟩, ?_⟩
      refine bind_eq_ok.mpr ⟨((), text₄), unit_eq_ok_iff.mpr ⟨gap₃, h₃, rfl⟩, ?_⟩
      exact bind_eq_ok.mpr ⟨rest, endObject_eq_ok_iff_gap.mpr ⟨gap₄, h₄, rfl⟩, rfl⟩

/-- The name of a variant is a whole text, but for blanks at its ends. -/
theorem decode_variant_eq_ok_iff :
    decode variant text = .ok name ↔
      ∃ gap spelled last, Blanks gap ∧ Blanks last ∧ SpellsVariant spelled name ∧
        text = symbolsOf (gap ++ spelled ++ last) := by
  rw [decode, bind_eq_ok]
  constructor
  · rintro ⟨⟨name', rest⟩, hname, h⟩
    dsimp only at h
    split at h
    next hempty =>
      cases h
      obtain ⟨gap, spelled, hgap, hspells, rfl⟩ := variant_eq_ok_iff.mp hname
      obtain ⟨last, hlast, hrest⟩ := exists_blanks rest
      refine ⟨gap, spelled, last, hgap, hlast, hspells, ?_⟩
      rw [hrest, List.isEmpty_iff.mp hempty, List.append_nil, ← symbolsOf_append]
    next => cases h
  · rintro ⟨gap, spelled, last, hgap, hlast, hspells, rfl⟩
    have hskip : skipBlanks (symbolsOf last) = [] := by
      have h := skipBlanks_symbolsOf hlast []
      rwa [List.append_nil] at h
    refine ⟨(name, symbolsOf last), variant_eq_ok_iff.mpr ⟨gap, spelled, hgap, hspells,
      symbolsOf_append _ _⟩, ?_⟩
    dsimp only
    rw [hskip]
    rfl

end Variants

end OpenPulls.Json
