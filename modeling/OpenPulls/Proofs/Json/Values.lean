import OpenPulls.Json.Shape
import OpenPulls.Proofs.Json.Parts

/-!
# Decoding written values

A decoder is for a shape, which is a relation between trees and values.

* `Decodes scan R`: at a written tree, whatever follows it, the decoder succeeds exactly with the
  values that `R` relates to the tree, and stops where the tree ends.
* `decodes_boolean`, `decodes_unsigned`, `decodes_text`, `decodes_unit`: the simple values.
* `Decodes.optional`, `Decodes.map`, `Decodes.listOf`: the decoders that are made from others.

The first symbol of a value tells its kind. So a decoder fails at once at a value of another kind
(`Rejects`), and what is left to prove about it is what it does at its own.
-/

namespace OpenPulls.Json

open OpenPulls.Text (Symbol)

variable {α β : Type}

/-- A result of two steps comes from a result of the first one. -/
theorem bind_eq_ok {ε : Type} {x : Except ε α} {f : α → Except ε β} {b : β} :
    x >>= f = .ok b ↔ ∃ a, x = .ok a ∧ f a = .ok b := by
  cases x with
  | error e => exact ⟨nofun, fun ⟨_, h, _⟩ => nomatch h⟩
  | ok a => exact ⟨fun h => ⟨a, rfl, h⟩, fun ⟨_, h, h'⟩ => by cases h; exact h'⟩

/-- The decoder fails at every value of a kind that is not one of its own. -/
def Rejects (scan : Scanner α) (own : List Kind) : Prop :=
  ∀ s text k, kindOf? s = some k → k ∉ own → ∃ e, scan (s :: text) = .error e

/-! ## Decoders and shapes -/

/-- At a written tree, the decoder reads exactly the values that the shape relates to the tree. -/
def Decodes (scan : Scanner α) (R : Tree → α → Prop) : Prop :=
  ∀ t rest, Ends rest → ∀ a rest',
    scan (symbolsOf t.written ++ rest) = .ok (a, rest') ↔ R t a ∧ rest' = rest

namespace Decodes

variable {scan : Scanner α} {R : Tree → α → Prop}

/-- A decoder that rejects other kinds is judged by what it does at its own. -/
theorem of_rejects (own : List Kind) (hreject : Rejects scan own)
    (hkind : ∀ t a, R t a → t.kind ∈ own)
    (hown : ∀ t, t.kind ∈ own → ∀ rest, Ends rest → ∀ a rest',
      scan (symbolsOf t.written ++ rest) = .ok (a, rest') ↔ R t a ∧ rest' = rest) :
    Decodes scan R := by
  intro t rest hrest a rest'
  by_cases hk : t.kind ∈ own
  · exact hown t hk rest hrest a rest'
  · obtain ⟨s, text, hs, hlead⟩ := exists_lead t
    obtain ⟨e, he⟩ := hreject s (text ++ rest) t.kind hlead hk
    rw [hs, List.cons_append, he]
    exact ⟨nofun, fun h => absurd (hkind t a h.1) hk⟩

theorem congr {R' : Tree → α → Prop} (h : Decodes scan R) (hR : ∀ t a, R t a ↔ R' t a) :
    Decodes scan R' := by
  intro t rest hrest a rest'
  rw [h t rest hrest, hR]

/-- A text that is a written tree has the values of the tree. -/
theorem decode_eq_ok_iff (h : Decodes scan R) (t : Tree) {a : α} :
    decode scan (symbolsOf t.written) = .ok a ↔ R t a := by
  have ht := h t [] trivial
  rw [List.append_nil] at ht
  rw [decode, bind_eq_ok]
  constructor
  · rintro ⟨⟨b, rest⟩, hb, hab⟩
    obtain ⟨hR, rfl⟩ := (ht b rest).mp hb
    cases hab
    exact hR
  · intro hR
    exact ⟨(a, []), (ht a []).mpr ⟨hR, rfl⟩, rfl⟩

/-- A decoder of a value of another type made from the value. -/
theorem map (h : Decodes scan R) (f : α → β) :
    Decodes (Json.map f scan) fun t b => ∃ a, R t a ∧ b = f a := by
  intro t rest hrest b rest'
  rw [Json.map, bind_eq_ok]
  constructor
  · rintro ⟨⟨a, more⟩, ha, hb⟩
    obtain ⟨hR, rfl⟩ := (h t rest hrest a more).mp ha
    cases hb
    exact ⟨⟨a, hR, rfl⟩, rfl⟩
  · rintro ⟨⟨a, hR, rfl⟩, rfl⟩
    exact ⟨(a, rest'), (h t rest' hrest a rest').mpr ⟨hR, rfl⟩, rfl⟩

end Decodes

/-! ## Simple values -/

section Simple

variable {rest rest' : List Symbol}

theorem rejects_boolean : Rejects boolean [.boolean] := by
  intro s text k hs hk
  rw [boolean, skipBlanks_of_kind hs]
  split
  next h => cases h
  next h =>
    cases h
    cases hs
    exact absurd (List.mem_singleton_self _) hk
  next h =>
    cases h
    cases hs
    exact absurd (List.mem_singleton_self _) hk
  next => exact ⟨_, rfl⟩

theorem ok_pair_iff {a b : α} :
    (Except.ok (b, rest) : Except Error (α × List Symbol)) = .ok (a, rest') ↔
      b = a ∧ rest' = rest := by
  rw [Except.ok.injEq, Prod.mk.injEq, eq_comm (a := rest)]

theorem boolean_written (b : Bool) (rest : List Symbol) :
    boolean (symbolsOf (Tree.boolean b).written ++ rest) = .ok (b, rest) := by
  cases b with
  | true =>
    rw [Tree.written]
    exact word_then (true, ·) ['r', 'u', 'e'] rest
  | false =>
    rw [Tree.written]
    exact word_then (false, ·) ['a', 'l', 's', 'e'] rest

theorem decodes_boolean : Decodes boolean IsBoolean := by
  refine .of_rejects [.boolean] rejects_boolean (by rintro _ _ rfl; simp [Tree.kind]) ?_
  intro t ht rest _ a rest'
  cases t with
  | boolean b => rw [boolean_written, ok_pair_iff, IsBoolean, Tree.boolean.injEq]
  | _ => simp [Tree.kind] at ht

theorem rejects_text : Rejects Json.text [.string] := by
  intro s text k hs hk
  rw [Json.text, skipBlanks_of_kind hs]
  split
  next h => cases h
  next h =>
    cases h
    cases hs
    exact absurd (List.mem_singleton_self _) hk
  next => exact ⟨_, rfl⟩

theorem text_written (s : String) (rest : List Symbol) :
    Json.text (symbolsOf (writtenString s) ++ rest) = .ok (s, rest) :=
  string_written rest s

theorem decodes_text : Decodes Json.text IsString := by
  refine .of_rejects [.string] rejects_text (by rintro _ _ rfl; simp [Tree.kind]) ?_
  intro t ht rest _ a rest'
  cases t with
  | string s => rw [Tree.written, text_written, ok_pair_iff, IsString, Tree.string.injEq]
  | _ => simp [Tree.kind] at ht

theorem rejects_unit : Rejects unit [.null] := by
  intro s text k hs hk
  rw [unit, skipBlanks_of_kind hs]
  split
  next h => cases h
  next h =>
    cases h
    cases hs
    exact absurd (List.mem_singleton_self _) hk
  next => exact ⟨_, rfl⟩

theorem unit_written (rest : List Symbol) :
    unit (symbolsOf Tree.null.written ++ rest) = .ok ((), rest) := by
  rw [Tree.written]
  exact word_then ((), ·) ['u', 'l', 'l'] rest

theorem decodes_unit : Decodes unit fun t _ => t = .null := by
  refine .of_rejects [.null] rejects_unit (by rintro _ _ rfl; simp [Tree.kind]) ?_
  intro t ht rest _ a rest'
  cases t with
  | null => rw [unit_written, ok_pair_iff]; simp
  | _ => simp [Tree.kind] at ht

theorem rejects_unsigned : Rejects unsigned [.number] := by
  intro s text k hs hk
  have hn : ¬ (s = .char '-' || isDigit s) = true := by
    intro h
    rw [kindOf?_eq_number_iff.mpr (by simpa using h)] at hs
    cases hs
    exact absurd (List.mem_singleton_self _) hk
  rw [unsigned, skipBlanks_of_kind hs]
  simp only [if_neg hn]
  exact ⟨_, rfl⟩

theorem unsigned_eq_ok_iff {s : Symbol} (h : kindOf? s = some .number) {text : List Symbol}
    {n : UInt64} :
    unsigned (s :: text) = .ok (n, rest') ↔ number (s :: text) = .ok (.unsigned n, rest') := by
  have hs : (s = .char '-' || isDigit s) = true := by simpa using kindOf?_eq_number_iff.mp h
  rw [unsigned, skipBlanks_of_kind h]
  simp only [if_pos hs, bind_eq_ok]
  constructor
  · rintro ⟨⟨x, more⟩, hx, h⟩
    cases x <;> cases h
    exact hx
  · intro hx
    exact ⟨_, hx, rfl⟩

theorem decodes_unsigned : Decodes unsigned IsUnsigned := by
  refine .of_rejects [.number] rejects_unsigned (by rintro _ _ rfl; simp [Tree.kind]) ?_
  intro t ht rest hrest a rest'
  cases t with
  | number n =>
    obtain ⟨s, text, hs, hlead⟩ := exists_lead (.number n)
    rw [hs, List.cons_append, unsigned_eq_ok_iff hlead, ← List.cons_append, ← hs, Tree.written,
      number_eq_unsigned_iff n hrest, IsUnsigned, Tree.number.injEq]
  | _ => simp [Tree.kind] at ht

end Simple

/-! ## Values that may be nothing -/

theorem optional_null (scan : Scanner α) (rest : List Symbol) :
    optional scan (symbolsOf Tree.null.written ++ rest) = .ok (none, rest) := by
  rw [Tree.written]
  exact word_then (none, ·) ['u', 'l', 'l'] rest

theorem optional_of_kind (scan : Scanner α) {s : Symbol} {k : Kind} (hs : kindOf? s = some k)
    (hk : k ≠ .null) (text : List Symbol) :
    optional scan (s :: text) = do
      let (a, rest) ← scan (s :: text)
      return (some a, rest) := by
  rw [optional, skipBlanks_of_kind hs]
  split
  next h =>
    cases h
    cases hs
    exact absurd rfl hk
  next => rfl

theorem Tree.eq_null {t : Tree} (h : t.kind = .null) : t = .null := by
  cases t with
  | null => rfl
  | _ => cases h

theorem Decodes.optional {scan : Scanner α} {R : Tree → α → Prop} (h : Decodes scan R) :
    Decodes (Json.optional scan) (Nullable R) := by
  intro t rest hrest a rest'
  by_cases ht : t.kind = .null
  · rw [Tree.eq_null ht, optional_null, ok_pair_iff]
    constructor
    · rintro ⟨rfl, rfl⟩
      exact ⟨.null, rfl⟩
    · rintro ⟨hn, rfl⟩
      cases hn with
      | null => exact ⟨rfl, rfl⟩
      | value hnull => exact absurd rfl hnull
  · obtain ⟨s, text, hs, hlead⟩ := exists_lead t
    rw [hs, List.cons_append, optional_of_kind scan hlead ht, bind_eq_ok, ← List.cons_append, ← hs]
    constructor
    · rintro ⟨⟨b, more⟩, hb, hab⟩
      obtain ⟨hR, rfl⟩ := (h t rest hrest b more).mp hb
      cases hab
      exact ⟨.value (by rintro rfl; exact ht rfl) hR, rfl⟩
    · rintro ⟨hn, rfl⟩
      cases hn with
      | null => exact absurd rfl ht
      | @value _ b _ hb => exact ⟨(b, rest'), (h t rest' hrest b rest').mpr ⟨hb, rfl⟩, rfl⟩

/-! ## Sequences -/

theorem compact_eq (opening closing : Char) (parts : List (List Char)) :
    compact opening closing parts = opening :: separated true parts ++ [closing] := by
  cases parts with
  | nil => rfl
  | cons part parts => rw [compact, separated_eq_spaced, spaced_cons, List.nil_append]

section Separated

variable {closing : Char} {parts : List (List Char)} {rest : List Symbol}

/-- The text inside brackets, with the closing one. -/
theorem symbolsOf_compact (opening : Char) :
    symbolsOf (compact opening closing parts) ++ rest =
      .char opening :: (symbolsOf (separated true parts) ++ .char closing :: rest) := by
  simp [compact_eq]

/-- A part ends where the next one, or the closing bracket, begins. -/
theorem ends_separated (h : closing = ']' ∨ closing = '\x7d') :
    Ends (symbolsOf (separated false parts) ++ .char closing :: rest) := by
  cases parts with
  | nil => rcases h with rfl | rfl <;> simp [separated, Ends]
  | cons part parts => exact .inl rfl

end Separated

section NextElement

variable {rest : List Symbol}

/-- The next element is the next part. -/
theorem nextElement_separated (first : Bool) (t : Tree) (parts : List (List Char)) :
    nextElement first (symbolsOf (separated first (t.written :: parts)) ++ rest) =
      .ok (some (symbolsOf t.written ++ (symbolsOf (separated false parts) ++ rest))) := by
  rw [separated_eq_spaced, separated_eq_spaced]
  exact nextElement_spaced blanks_nil (begins_written t) first rest

/-- What follows an element is shorter than the text that begins with it. -/
theorem length_lt_separated (first : Bool) (t : Tree) (parts : List (List Char)) :
    (symbolsOf (separated false parts) ++ rest).length <
      (symbolsOf (separated first (t.written :: parts)) ++ rest).length := by
  rw [separated_eq_spaced, separated_eq_spaced]
  exact length_lt_spaced (begins_written t) first

end NextElement

section Elements

variable {scan : Scanner α} {R : Tree → α → Prop} {rest rest' : List Symbol}

theorem rejects_listOf (scan : Scanner α) : Rejects (listOf scan) [.array] := by
  intro s text k hs hk
  rw [listOf, skipBlanks_of_kind hs]
  split
  next h => cases h
  next h =>
    cases h
    cases hs
    exact absurd (List.mem_singleton_self _) hk
  next => exact ⟨_, rfl⟩

/-- An element is read, and the others after it. -/
theorem elements_step {text text' : List Symbol} {read as : List α}
    (hnext : nextElement read.isEmpty text = .ok (some text'))
    (hlt : ∀ a more, scan text' = .ok (a, more) → more.length < text.length) :
    elements scan read text = .ok (as, rest') ↔
      ∃ a more, scan text' = .ok (a, more) ∧ elements scan (a :: read) more = .ok (as, rest') := by
  rw [elements, hnext]
  cases hscan : scan text' with
  | error e => simp [hscan]
  | ok x =>
    obtain ⟨a, more⟩ := x
    simp [hscan, hlt a more hscan]

/-- The elements are the values of the items, behind what was read before. -/
theorem elements_eq_ok_iff (h : Decodes scan R) (items : List Tree) (read as : List α) :
    elements scan read
        (symbolsOf (separated read.isEmpty (Tree.writtenItems items)) ++ .char ']' :: rest) =
      .ok (as, rest') ↔
      (∃ bs, List.Forall₂ R items bs ∧ as = read.reverse ++ bs) ∧ rest' = rest := by
  induction items generalizing read with
  | nil =>
    rw [Tree.writtenItems, separated, symbolsOf_nil, List.nil_append, elements]
    show Except.ok (read.reverse, rest) = _ ↔ _
    rw [ok_pair_iff]
    simp [eq_comm]
  | cons t items ih =>
    have hends : Ends (symbolsOf (separated false (Tree.writtenItems items))
        ++ .char ']' :: rest) := ends_separated (.inl rfl)
    rw [Tree.writtenItems, elements_step (nextElement_separated _ t _)]
    · constructor
      · rintro ⟨a, more, ha, hmore⟩
        obtain ⟨hR, rfl⟩ := (h t _ hends a more).mp ha
        obtain ⟨⟨bs, hbs, rfl⟩, rfl⟩ := (ih (a :: read)).mp hmore
        exact ⟨⟨a :: bs, .cons hR hbs, by simp⟩, rfl⟩
      · rintro ⟨⟨_, hbs, rfl⟩, rfl⟩
        cases hbs with
        | @cons _ a _ bs hR hbs =>
          have hmore := (ih (a :: read)).mpr ⟨⟨bs, hbs, by simp⟩, rfl⟩
          exact ⟨a, _, (h t _ hends a _).mpr ⟨hR, rfl⟩, hmore⟩
    · intro a more ha
      obtain ⟨-, rfl⟩ := (h t _ hends a more).mp ha
      exact length_lt_separated _ t _

theorem Decodes.listOf (h : Decodes scan R) : Decodes (Json.listOf scan) (ListOf R) := by
  refine .of_rejects [.array] (rejects_listOf scan) (by rintro _ _ ⟨⟩; simp [Tree.kind]) ?_
  intro t ht rest hrest as rest'
  cases t with
  | array items =>
    rw [Tree.written, symbolsOf_compact]
    refine Iff.trans (elements_eq_ok_iff h items [] as) ?_
    constructor
    · rintro ⟨⟨bs, hbs, rfl⟩, rfl⟩
      exact ⟨.array hbs, rfl⟩
    · rintro ⟨⟨has⟩, rfl⟩
      exact ⟨⟨as, has, rfl⟩, rfl⟩
  | _ => simp [Tree.kind] at ht

end Elements

end OpenPulls.Json
