import OpenPulls.Proofs.Json.Strings

/-!
# Written numbers

A number that is written as an integer without sign and fits in 64 bits is read as that integer, and
no other number is (`number_eq_unsigned_iff`): a sign, a point, an exponent or too many digits make
something else of it. Every number can be skipped (`skipUnsignedPart_written`).

What may follow a number is nothing that belongs to a number, so a number ends where it was written
to its end (`Ends` in a text without blanks, else `Stops`).
-/

namespace OpenPulls.Json

open OpenPulls.Text (Symbol)

/-- A value can end before the text: it is empty, or begins with a comma or a closing bracket. -/
def Ends : List Symbol → Prop
  | [] => True
  | s :: _ => s = .char ',' ∨ s = .char ']' ∨ s = .char '\x7d'

/-- A value can end before the text where blanks stand between the parts: it may also begin with a
blank. -/
def Stops : List Symbol → Prop
  | [] => True
  | s :: _ => isBlank s = true ∨ s = .char ',' ∨ s = .char ']' ∨ s = .char '\x7d'

theorem Ends.stops {rest : List Symbol} (h : Ends rest) : Stops rest := by
  cases rest with
  | nil => trivial
  | cons s rest => exact .inr h

theorem isBlank_eq_true_iff {s : Symbol} :
    isBlank s = true ↔ s = .char ' ' ∨ s = .char '\n' ∨ s = .char '\t' ∨ s = .char '\r' := by
  cases s with
  | stray => simp [isBlank]
  | char c => simp [isBlank, or_assoc]

/-- The text does not begin with a digit. -/
def EndsDigits : List Symbol → Prop
  | [] => True
  | s :: _ => digit? s = none

theorem Stops.endsDigits {rest : List Symbol} (h : Stops rest) : EndsDigits rest := by
  cases rest with
  | nil => trivial
  | cons s rest =>
    rw [Stops, isBlank_eq_true_iff] at h
    rcases h with (rfl | rfl | rfl | rfl) | rfl | rfl | rfl <;> rfl

theorem Ends.endsDigits {rest : List Symbol} (h : Ends rest) : EndsDigits rest :=
  h.stops.endsDigits

/-! ## Digits -/

theorem EndsDigits.isDigit {s : Symbol} {rest : List Symbol} (h : EndsDigits (s :: rest)) :
    isDigit s = false := by
  rw [Json.isDigit, show digit? s = none from h, Option.isSome_none]

theorem digit?_of_isDigit {c : Char} (h : c.isDigit = true) :
    digit? (.char c) = some (c.toNat - 48) := if_pos h

theorem isDigit_of_isDigit {c : Char} (h : c.isDigit = true) : isDigit (.char c) = true := by
  rw [isDigit, digit?_of_isDigit h, Option.isSome_some]

theorem isDigit_char_digit (d : Digit) : d.char.isDigit = true := by
  rw [Digit.char, Nat.isDigit_digitChar, decide_eq_true d.isLt]

theorem isDigit_map_char (ds : List Digit) : ∀ c ∈ ds.map Digit.char, c.isDigit = true := by
  intro c hc
  obtain ⟨d, -, rfl⟩ := List.mem_map.mp hc
  exact isDigit_char_digit d

/-- All digits at the beginning are passed over. -/
theorem dropWhile_digits {ds : List Char} (hds : ∀ c ∈ ds, c.isDigit = true) {more : List Symbol}
    (hm : EndsDigits more) : (symbolsOf ds ++ more).dropWhile isDigit = more := by
  have hall : ∀ s ∈ symbolsOf ds, isDigit s = true := by
    intro s hs
    obtain ⟨c, hc, rfl⟩ := List.mem_map.mp hs
    exact isDigit_of_isDigit (hds c hc)
  rw [List.dropWhile_append_of_pos hall]
  cases more with
  | nil => rfl
  | cons s more => rw [List.dropWhile_cons_of_neg (by simp [hm.isDigit])]

theorem le_ofDigitChars (ds : List Char) (n : Nat) : n ≤ Nat.ofDigitChars 10 ds n := by
  induction ds generalizing n with
  | nil => exact Nat.le_refl n
  | cons c ds ih =>
    rw [Nat.ofDigitChars_cons]
    exact Nat.le_trans (by omega) (ih _)

section Significand

variable {ds : List Char} {more : List Symbol} {n : Nat}

/-- Digits that fit in 64 bits are all read. -/
theorem significand_of_le (count : Nat) (hds : ∀ c ∈ ds, c.isDigit = true) (hm : EndsDigits more)
    (h : Nat.ofDigitChars 10 ds n ≤ maxUnsigned) :
    significand n count (symbolsOf ds ++ more) =
      (Nat.ofDigitChars 10 ds n, count + ds.length, more) := by
  induction ds generalizing n count with
  | nil =>
    cases more with
    | nil => rfl
    | cons s more =>
      have hs : digit? s = none := hm
      rw [symbolsOf_nil, List.nil_append, significand, hs]
      rfl
  | cons c ds ih =>
    rw [List.forall_mem_cons] at hds
    have hstep : 10 * n + (c.toNat - '0'.toNat) = n * 10 + (c.toNat - 48) := by
      rw [Nat.mul_comm]
      rfl
    rw [Nat.ofDigitChars_cons, hstep] at h ⊢
    have hle : n * 10 + (c.toNat - 48) ≤ maxUnsigned := Nat.le_trans (le_ofDigitChars ds _) h
    rw [symbolsOf_cons, List.cons_append, significand, digit?_of_isDigit hds.1]
    simp only [if_pos hle, ih _ hds.2 h, List.length_cons, Nat.add_right_comm count 1,
      Nat.add_assoc]

/-- Digits that do not fit in 64 bits are not all read. -/
theorem significand_of_lt (count : Nat) (more : List Symbol) (hds : ∀ c ∈ ds, c.isDigit = true) 
    (hn : n ≤ maxUnsigned) (h : maxUnsigned < Nat.ofDigitChars 10 ds n) :
    ∃ m count' t rest, significand n count (symbolsOf ds ++ more) = (m, count', t :: rest) ∧
      isDigit t = true := by
  induction ds generalizing n count with
  | nil => exact absurd h (Nat.not_lt_of_le hn)
  | cons c ds ih =>
    rw [List.forall_mem_cons] at hds
    have hstep : 10 * n + (c.toNat - '0'.toNat) = n * 10 + (c.toNat - 48) := by
      rw [Nat.mul_comm]
      rfl
    rw [Nat.ofDigitChars_cons, hstep] at h
    rw [symbolsOf_cons, List.cons_append, significand, digit?_of_isDigit hds.1]
    by_cases hle : n * 10 + (c.toNat - 48) ≤ maxUnsigned
    · simp only [if_pos hle]
      exact ih _ hds.2 hle h
    · simp only [if_neg hle]
      exact ⟨_, _, _, _, rfl, isDigit_of_isDigit hds.1⟩

end Significand

theorem digit?_digitChar {d : Nat} (h : d < 10) : digit? (.char (Nat.digitChar d)) = some d := by
  rw [digit?_of_isDigit (by rw [Nat.isDigit_digitChar, decide_eq_true h]),
    Nat.toNat_digitChar_of_lt_ten h, Nat.add_sub_cancel_left]

/-- A number other than zero is written without leading zeros. -/
theorem toDigits_eq_cons {n : Nat} (h : n ≠ 0) :
    ∃ d ds, d + 1 < 10 ∧ Nat.toDigits 10 n = Nat.digitChar (d + 1) :: ds := by
  -- The first digit is that of the number without its last digit.
  induction n using Nat.strongRecOn with
  | ind n ih =>
    rw [Nat.toDigits_eq_if (by decide)]
    split
    next hlt =>
      obtain ⟨d, rfl⟩ := Nat.exists_eq_add_one.mpr (Nat.pos_of_ne_zero h)
      exact ⟨d, [], hlt, rfl⟩
    next hge =>
      obtain ⟨d, ds, hd, hds⟩ := ih (n / 10) (by omega) (by omega)
      exact ⟨d, ds ++ _, hd, by rw [hds, List.cons_append]⟩

/-- A number other than zero, taken apart as it is read: a first digit, and further ones, which
bring the first one to the number. -/
theorem exists_digits {n : Nat} (h : n ≠ 0) :
    ∃ c ds d, Nat.toDigits 10 n = c :: ds ∧ digit? (.char c) = some (d + 1) ∧ d + 1 < 10 ∧
      (∀ x ∈ ds, x.isDigit = true) ∧ Nat.ofDigitChars 10 ds (d + 1) = n := by
  obtain ⟨d, ds, hd, hds⟩ := toDigits_eq_cons h
  have hall : ∀ x ∈ Nat.toDigits 10 n, x.isDigit = true := fun x hx =>
    Nat.isDigit_of_mem_toDigits (by decide) (by decide) hx
  have hvalue : Nat.ofDigitChars 10 (Nat.toDigits 10 n) 0 = n :=
    Nat.ofDigitChars_toDigits (by decide) (by decide)
  rw [hds] at hall hvalue
  rw [Nat.ofDigitChars_cons, Nat.toNat_digitChar_of_lt_ten hd, Nat.mul_zero, Nat.zero_add] at hvalue
  refine ⟨_, ds, d, hds, digit?_digitChar hd, hd, (List.forall_mem_cons.mp hall).2, ?_⟩
  rwa [show 48 + (d + 1) - '0'.toNat = d + 1 from Nat.add_sub_cancel_left ..] at hvalue

/-! ## Numbers that are no integers without sign -/

theorem floatOf_ne_unsigned (positive : Bool) (n : Nat) (power : Int) (m : UInt64) :
    floatOf positive n power ≠ .ok (.unsigned m) := by
  rw [floatOf]
  cases scale 8 n.toUInt64.toFloat power <;> nofun

/-- The result is no integer without sign. -/
def NoUnsigned (result : Except Error (Number × List Symbol)) : Prop :=
  ∀ m rest, result ≠ .ok (.unsigned m, rest)

theorem noUnsigned_error (e : Error) : NoUnsigned (.error e) := nofun

theorem noUnsigned_floatOf (positive : Bool) (n : Nat) (power : Int) (rest : List Symbol) :
    NoUnsigned (do return (← floatOf positive n power, rest)) := by
  intro m rest' h
  cases hf : floatOf positive n power with
  | error e => rw [hf] at h; cases h
  | ok x =>
    rw [hf] at h
    cases h
    exact floatOf_ne_unsigned _ _ _ _ hf

theorem noUnsigned_exponent (positive : Bool) (n : Nat) (power : Int) (text : List Symbol) :
    NoUnsigned (exponent positive n power text) := by
  rw [exponent.eq_def]
  dsimp only
  repeat' split
  all_goals first | exact noUnsigned_error _ | exact noUnsigned_floatOf _ _ _ _ | nofun

theorem noUnsigned_finishFloat (positive : Bool) (n : Nat) (power : Int) (text : List Symbol) :
    NoUnsigned (finishFloat positive n power text) := by
  rw [finishFloat.eq_def]
  split
  · exact noUnsigned_exponent _ _ _ _
  · exact noUnsigned_exponent _ _ _ _
  · exact noUnsigned_floatOf _ _ _ _

theorem noUnsigned_places (positive : Bool) (n : Nat) (power : Int) (text : List Symbol) :
    NoUnsigned (places positive n power text) := by
  rw [places]
  dsimp only
  repeat' split
  all_goals first | exact noUnsigned_error _ | exact noUnsigned_finishFloat _ _ _ _

theorem noUnsigned_finishLong (positive : Bool) (n : Nat) (text : List Symbol) :
    NoUnsigned (finishLong positive n text) := by
  rw [finishLong]
  split
  · exact noUnsigned_places _ _ _ _
  · exact noUnsigned_finishFloat _ _ _ _

theorem noUnsigned_finishInteger_negative (n : Nat) (text : List Symbol) :
    NoUnsigned (finishInteger false n text) := by
  rw [finishInteger.eq_def]
  split
  · exact noUnsigned_places _ _ _ _
  · exact noUnsigned_exponent _ _ _ _
  · exact noUnsigned_exponent _ _ _ _
  · rw [integer, if_neg (by decide)]
    split <;> nofun

theorem noUnsigned_finishInteger_places (n : Nat) (text : List Symbol) :
    NoUnsigned (finishInteger true n (.char '.' :: text)) :=
  noUnsigned_places _ _ _ _

theorem noUnsigned_finishInteger_exponent (n : Nat) (isCapital : Bool) (text : List Symbol) :
    NoUnsigned (finishInteger true n (.char (if isCapital then 'E' else 'e') :: text)) := by
  cases isCapital <;> exact noUnsigned_exponent _ _ _ _

theorem noUnsigned_unsignedPart_negative (text : List Symbol) :
    NoUnsigned (unsignedPart false text) := by
  rw [unsignedPart.eq_def]
  dsimp only
  repeat' split
  all_goals
    first
    | exact noUnsigned_error _
    | exact noUnsigned_finishInteger_negative _ _
    | exact noUnsigned_finishLong _ _ _

/-! ## Reading -/

theorem finishInteger_of_stops (n : Nat) {rest : List Symbol} (h : Stops rest) :
    finishInteger true n rest = .ok (.unsigned n.toUInt64, rest) := by
  cases rest with
  | nil => rfl
  | cons s rest =>
    rw [Stops, isBlank_eq_true_iff] at h
    rcases h with (rfl | rfl | rfl | rfl) | rfl | rfl | rfl <;> rfl

section UnsignedPart

variable {n : Nat} {more : List Symbol}

/-- After the whole part of a number that fits in 64 bits, its end decides. -/
theorem unsignedPart_of_le (positive : Bool) (hn : n ≤ maxUnsigned) (hm : EndsDigits more) :
    unsignedPart positive (symbolsOf (Nat.toDigits 10 n) ++ more) =
      finishInteger positive n more := by
  by_cases h0 : n = 0
  · subst h0
    rw [Nat.toDigits_zero, symbolsOf_cons, symbolsOf_nil, List.singleton_append,
      unsignedPart.eq_def]
    cases more with
    | nil => rfl
    | cons t more =>
      show (if isDigit t = true then _ else finishInteger positive 0 (t :: more)) = _
      rw [hm.isDigit, if_neg (by decide)]
  · obtain ⟨c, ds, d, hds, hc, -, hdigits, hvalue⟩ := exists_digits h0
    have hread := significand_of_le 0 hdigits hm (Nat.le_trans (Nat.le_of_eq hvalue) hn)
    rw [hvalue] at hread
    rw [hds, symbolsOf_cons, List.cons_append, unsignedPart.eq_def]
    simp only [hc, hread]
    cases more with
    | nil => rfl
    | cons t more => simp only [hm.isDigit, Bool.false_eq_true, if_false]

/-- A number that does not fit in 64 bits is a long one. -/
theorem unsignedPart_of_lt (positive : Bool) (more : List Symbol) (hn : maxUnsigned < n) :
    ∃ m rest, unsignedPart positive (symbolsOf (Nat.toDigits 10 n) ++ more) =
      finishLong positive m rest := by
  obtain ⟨c, ds, d, hds, hc, hd, hdigits, hvalue⟩ := exists_digits (Nat.ne_zero_of_lt hn)
  have hd : d + 1 ≤ maxUnsigned := Nat.le_trans (Nat.le_of_lt hd) (by decide)
  rw [← hvalue] at hn
  obtain ⟨m, count, t, rest, hs, ht⟩ := significand_of_lt 0 more hdigits hd hn
  refine ⟨m, t :: rest, ?_⟩
  rw [hds, symbolsOf_cons, List.cons_append, unsignedPart.eq_def]
  simp only [hc, hs, ht, if_true]

end UnsignedPart

section Number

variable {rest : List Symbol}

/-- A number begins with a digit behind its sign. -/
theorem exists_digit_cons (n : Nat) :
    ∃ c cs, Nat.toDigits 10 n = c :: cs ∧ c.isDigit = true := by
  obtain ⟨c, cs, h⟩ := List.exists_cons_of_ne_nil (Nat.toDigits_ne_nil (n := n) (b := 10))
  have hc : c ∈ Nat.toDigits 10 n := by simp [h]
  exact ⟨c, cs, h, Nat.isDigit_of_mem_toDigits (by decide) (by decide) hc⟩

/-- What stands behind the whole part: nothing, a point, or the letter of an exponent. -/
theorem behindWhole_cases (n : Numeral) :
    (n.places = [] ∧ n.exponent = none ∧ n.behindWhole = []) ∨
    (n.places ≠ [] ∧ ∃ text, n.behindWhole = '.' :: text) ∨
    (n.exponent ≠ none ∧ ∃ e : Exponent, ∃ text,
      n.behindWhole = (if e.isCapital then 'E' else 'e') :: text) := by
  by_cases hp : n.places = []
  · cases he : n.exponent with
    | none => exact .inl ⟨hp, rfl, by simp [Numeral.behindWhole, hp, he]⟩
    | some e =>
      have hwritten : n.behindWhole = e.written := by simp [Numeral.behindWhole, hp, he]
      exact .inr (.inr ⟨by simp, e, _, hwritten⟩)
  · exact .inr (.inl ⟨hp, _, by simp [Numeral.behindWhole, hp]; rfl⟩)

theorem endsDigits_behindWhole (n : Numeral) (h : Ends rest) :
    EndsDigits (symbolsOf n.behindWhole ++ rest) := by
  rcases behindWhole_cases n with ⟨-, -, hn⟩ | ⟨-, text, hn⟩ | ⟨-, e, text, hn⟩
  · rw [hn]
    exact h.endsDigits
  · rw [hn]
    rfl
  · rw [hn]
    cases e.isCapital <;> rfl

/-- A number without a minus sign is what its digits, and what follows them, make of it. -/
theorem number_nonNegative {n : Numeral} (h : n.isNegative = false) :
    number (symbolsOf n.written ++ rest) =
      unsignedPart true
        (symbolsOf (Nat.toDigits 10 n.whole) ++ (symbolsOf n.behindWhole ++ rest)) := by
  have hw : symbolsOf n.written ++ rest =
      symbolsOf (Nat.toDigits 10 n.whole) ++ (symbolsOf n.behindWhole ++ rest) := by
    simp [Numeral.written, h]
  obtain ⟨c, cs, hcs, hc⟩ := exists_digit_cons n.whole
  rw [hw, hcs, symbolsOf_cons, List.cons_append, number]
  rintro rest' ⟨⟩
  cases hc

/-- **Integers without sign.** A written number is read as an integer without sign exactly if it is
written as one and fits in 64 bits, and then as that integer. -/
theorem number_eq_unsigned_iff (n : Numeral) (h : Ends rest) {m : UInt64} {rest' : List Symbol} :
    number (symbolsOf n.written ++ rest) = .ok (.unsigned m, rest') ↔
      n = .unsigned m ∧ rest' = rest := by
  have hdigits := endsDigits_behindWhole n h
  cases hneg : n.isNegative with
  | true =>
    have hno : NoUnsigned (number (symbolsOf n.written ++ rest)) := by
      rw [Numeral.written, hneg]
      exact noUnsigned_unsignedPart_negative _
    exact ⟨fun hm => absurd hm (hno _ _), by rintro ⟨rfl, -⟩; cases hneg⟩
  | false =>
    rw [number_nonNegative hneg]
    by_cases hmax : n.whole ≤ maxUnsigned
    · rw [unsignedPart_of_le true hmax hdigits]
      rcases behindWhole_cases n with ⟨hp, he, hn⟩ | ⟨hp, text, hn⟩ | ⟨he, e, text, hn⟩
      · have hsize : n.whole < UInt64.size := Nat.lt_of_le_of_lt hmax (by decide)
        rw [hn, symbolsOf_nil, List.nil_append, finishInteger_of_stops n.whole h.stops]
        constructor
        · rintro ⟨⟩
          refine ⟨?_, rfl⟩
          rw [Numeral.unsigned, ← hneg, ← hp, ← he,
            show n.whole.toUInt64.toNat = n.whole from UInt64.toNat_ofNat_of_lt' hsize]
        · rintro ⟨rfl, rfl⟩
          simp [Numeral.unsigned]
      · rw [hn]
        exact ⟨fun hm => absurd hm (noUnsigned_finishInteger_places _ _ _ _),
          by rintro ⟨rfl, -⟩; exact absurd rfl hp⟩
      · rw [hn]
        exact ⟨fun hm => absurd hm (noUnsigned_finishInteger_exponent _ _ _ _ _),
          by rintro ⟨rfl, -⟩; exact absurd rfl he⟩
    · obtain ⟨k, more, hk⟩ :=
        unsignedPart_of_lt true (symbolsOf n.behindWhole ++ rest) (Nat.lt_of_not_le hmax)
      rw [hk]
      constructor
      · exact fun hm => absurd hm (noUnsigned_finishLong _ _ _ _ _)
      · rintro ⟨rfl, -⟩
        exact absurd (Nat.le_pred_of_lt m.toNat_lt) hmax

end Number

/-! ## Skipping -/

section Skip

variable {rest : List Symbol}

theorem isDigit_char (d : Digit) : isDigit (.char d.char) = true :=
  isDigit_of_isDigit (isDigit_char_digit d)

theorem dropWhile_map_char (ds : List Digit) (h : EndsDigits rest) :
    (symbolsOf (ds.map Digit.char) ++ rest).dropWhile isDigit = rest :=
  dropWhile_digits (isDigit_map_char ds) h

/-- What stands behind the places of a number: its exponent, if there is one. -/
def Numeral.behindPlaces (n : Numeral) : List Char := (n.exponent.map Exponent.written).getD []

theorem endsDigits_behindPlaces (n : Numeral) (h : Ends rest) :
    EndsDigits (symbolsOf n.behindPlaces ++ rest) := by
  rw [Numeral.behindPlaces]
  cases n.exponent with
  | none => exact h.endsDigits
  | some e =>
    cases hc : e.isCapital <;> simp [Exponent.written, hc, EndsDigits] <;> rfl

/-- An exponent is passed over behind its letter. -/
theorem skipExponent_written (e : Exponent) (h : EndsDigits rest) :
    skipExponent (symbolsOf e.written.tail ++ rest) = .ok rest := by
  obtain ⟨isCapital, isUp, d, ds⟩ := e
  have hds : (symbolsOf (ds.map Digit.char) ++ rest).dropWhile isDigit = rest :=
    dropWhile_map_char ds h
  cases isUp with
  | none =>
    have hd : isDigit (.char d.char) = true := isDigit_char d
    show skipExponent (.char d.char :: (symbolsOf (ds.map Digit.char) ++ rest)) = _
    rw [skipExponent, if_pos hd, hds]
    -- A digit is no sign.
    all_goals
      rintro _ h
      rw [(List.cons.inj h).1] at hd
      cases hd
  | some up =>
    cases up <;> simp [Exponent.written, skipExponent, isDigit_char, hds]

theorem skipFraction_behindPlaces (n : Numeral) (h : Ends rest) :
    skipFraction (symbolsOf n.behindPlaces ++ rest) = .ok rest := by
  rw [Numeral.behindPlaces]
  cases n.exponent with
  | none =>
    cases rest with
    | nil => rfl
    | cons s rest => rcases h with rfl | rfl | rfl <;> rfl
  | some e =>
    have hskip := skipExponent_written e h.endsDigits
    cases hc : e.isCapital <;> simpa [Exponent.written, hc, skipFraction] using hskip

/-- Places are passed over, and then what follows them. -/
theorem skipFraction_places (n : Numeral) (h : Ends rest) {d : Digit} {ds : List Digit} :
    skipFraction (.char '.' :: (symbolsOf ((d :: ds).map Digit.char)
        ++ (symbolsOf n.behindPlaces ++ rest))) =
      skipFraction (symbolsOf n.behindPlaces ++ rest) := by
  have hplaces := dropWhile_map_char (d :: ds) (endsDigits_behindPlaces n h)
  rw [List.map_cons, symbolsOf_cons, List.cons_append] at hplaces ⊢
  simp only [skipFraction, isDigit_char, if_true, hplaces]
  rw [Numeral.behindPlaces]
  cases n.exponent with
  | none =>
    cases rest with
    | nil => rfl
    | cons s rest => rcases h with rfl | rfl | rfl <;> rfl
  | some e => cases hc : e.isCapital <;> simp [Exponent.written, hc]

theorem skipFraction_written (n : Numeral) (h : Ends rest) :
    skipFraction (symbolsOf n.behindWhole ++ rest) = .ok rest := by
  have hskip := skipFraction_behindPlaces n h
  cases hp : n.places with
  | nil => simpa [Numeral.behindWhole, Numeral.behindPlaces, hp] using hskip
  | cons d ds =>
    have hbehind : n.behindWhole = '.' :: ((d :: ds).map Digit.char ++ n.behindPlaces) := by
      simp [Numeral.behindWhole, Numeral.behindPlaces, hp]
    rw [hbehind, symbolsOf_cons, symbolsOf_append, List.cons_append, List.append_assoc,
      skipFraction_places n h, hskip]

/-- A number is passed over behind its sign, whatever its size. -/
theorem skipUnsignedPart_written (n : Numeral) (h : Ends rest) :
    skipUnsignedPart (symbolsOf (Nat.toDigits 10 n.whole) ++ (symbolsOf n.behindWhole ++ rest)) =
      .ok rest := by
  have hskip := skipFraction_written n h
  have hdigits := endsDigits_behindWhole n h
  by_cases h0 : n.whole = 0
  · rw [h0, Nat.toDigits_zero, symbolsOf_cons, symbolsOf_nil, List.singleton_append,
      skipUnsignedPart.eq_def]
    generalize symbolsOf n.behindWhole ++ rest = more at hskip hdigits ⊢
    cases more with
    | nil => exact hskip
    | cons t more =>
      show (if isDigit t = true then _ else skipFraction (t :: more)) = _
      rw [hdigits.isDigit, if_neg (by decide), hskip]
  · obtain ⟨c, ds, d, hds, hc, -, hall, -⟩ := exists_digits h0
    rw [hds, symbolsOf_cons, List.cons_append, skipUnsignedPart.eq_def]
    simp only [hc, dropWhile_digits hall hdigits, hskip]

end Skip

end OpenPulls.Json
