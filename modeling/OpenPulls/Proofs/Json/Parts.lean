import Mathlib.Data.List.DropRight
import OpenPulls.Proofs.Json.Numbers

/-!
# The parts of a written value

Values stand side by side in arrays and objects, with commas between them and maybe blanks.

* `kindOf?`: the first symbol of a value tells its kind (`exists_lead`), so a value never begins
  with a blank, a comma or a closing bracket.
* `spaced`: parts with a gap before each. Without gaps this is `separated`.
* `nextElement_spaced`: whatever the gaps, the next element is the next part.
-/

namespace OpenPulls.Json

open OpenPulls.Text (Symbol)

/-! ## Kinds -/

/-- What a value is, without its contents. -/
inductive Kind where
  | null
  | boolean
  | number
  | string
  | array
  | object
deriving Repr, DecidableEq

/-- The kind of a tree. -/
def Tree.kind : Tree → Kind
  | .null => .null
  | .boolean _ => .boolean
  | .number _ => .number
  | .string _ => .string
  | .array _ => .array
  | .object _ => .object

/-- The kind of the values that begin with a symbol. -/
def kindOf? : Symbol → Option Kind
  | .char 'n' => some .null
  | .char 't' | .char 'f' => some .boolean
  | .char '"' => some .string
  | .char '[' => some .array
  | .char '\x7b' => some .object
  | s => if s = .char '-' || isDigit s then some .number else none

theorem kindOf?_digit {c : Char} (h : c.isDigit = true) : kindOf? (.char c) = some .number := by
  have hs := isDigit_of_isDigit h
  rw [kindOf?]
  · simp [hs]
  all_goals
    rintro ⟨⟩
    cases h

theorem kindOf?_eq_number_iff {s : Symbol} :
    kindOf? s = some .number ↔ s = .char '-' ∨ isDigit s = true := by
  constructor
  · intro h
    rw [kindOf?.eq_def] at h
    split at h
    case h_7 =>
      by_cases hs : s = .char '-' || isDigit s
      · simpa using hs
      · rw [if_neg hs] at h
        cases h
    all_goals cases h
  · rintro (rfl | h)
    · rfl
    · cases s with
      | stray => cases h
      | char c =>
        have hc : c.isDigit = true := by
          by_cases hc : c.isDigit = true
          · exact hc
          · simp [isDigit, digit?, hc] at h
        exact kindOf?_digit hc

/-- The first symbol of a written tree tells its kind. -/
theorem exists_lead (t : Tree) :
    ∃ s text, symbolsOf t.written = s :: text ∧ kindOf? s = some t.kind := by
  cases t with
  | null => exact ⟨_, _, by rw [Tree.written]; rfl, rfl⟩
  | boolean b => cases b <;> exact ⟨_, _, by rw [Tree.written]; rfl, rfl⟩
  | string s => exact ⟨_, _, by rw [Tree.written, writtenString]; rfl, rfl⟩
  | array items => exact ⟨_, _, by rw [Tree.written, compact]; rfl, rfl⟩
  | object members => exact ⟨_, _, by rw [Tree.written, compact]; rfl, rfl⟩
  | number n =>
    rw [Tree.written, Numeral.written]
    cases n.isNegative with
    | true => exact ⟨_, _, rfl, rfl⟩
    | false =>
      obtain ⟨c, cs, hcs, hc⟩ := exists_digit_cons n.whole
      exact ⟨_, _, by rw [hcs]; rfl, kindOf?_digit hc⟩

theorem isBlank_of_kind {s : Symbol} {k : Kind} (h : kindOf? s = some k) : isBlank s = false := by
  cases s with
  | stray => rfl
  | char c =>
    rw [Bool.eq_false_iff]
    intro hb
    simp only [isBlank, Bool.or_eq_true, decide_eq_true_eq] at hb
    rcases hb with ((rfl | rfl) | rfl) | rfl <;> cases h

theorem skipBlanks_of_kind {s : Symbol} {k : Kind} (h : kindOf? s = some k) (text : List Symbol) :
    skipBlanks (s :: text) = s :: text := by
  rw [skipBlanks, List.dropWhile_cons_of_neg (by simp [isBlank_of_kind h])]

/-- The text begins like a value. -/
def Begins (text : List Char) : Prop :=
  ∃ s more k, symbolsOf text = s :: more ∧ kindOf? s = some k

theorem begins_written (t : Tree) : Begins t.written := by
  obtain ⟨s, more, hs, hk⟩ := exists_lead t
  exact ⟨s, more, t.kind, hs, hk⟩

/-! ## Blanks -/

/-- The text has no other characters than blanks. -/
def Blanks (gap : List Char) : Prop := ∀ c ∈ gap, isBlank (.char c) = true

theorem blanks_nil : Blanks [] := List.forall_mem_nil _

theorem blanks_newLine (level : Nat) : Blanks (newLine level) := by
  intro c hc
  rcases List.mem_cons.mp hc with rfl | hc
  · rfl
  · rw [List.eq_of_mem_replicate hc]
    rfl

theorem skipBlanks_symbolsOf {gap : List Char} (h : Blanks gap) (text : List Symbol) :
    skipBlanks (symbolsOf gap ++ text) = skipBlanks text := by
  refine List.dropWhile_append_of_pos fun s hs => ?_
  obtain ⟨c, hc, rfl⟩ := List.mem_map.mp hs
  exact h c hc

theorem skipBlanks_skipBlanks (text : List Symbol) :
    skipBlanks (skipBlanks text) = skipBlanks text :=
  List.dropWhile_idempotent ..

/-! ## Gaps -/

/-- Parts with a comma before each, except before the first one. -/
def separated (first : Bool) : List (List Char) → List Char
  | [] => []
  | part :: parts => (if first then part else ',' :: part) ++ separated false parts

/-- Parts with a gap before each, and a comma before that except for the first one. -/
def spaced (gap : List Char) (first : Bool) : List (List Char) → List Char
  | [] => []
  | part :: parts => (if first then gap else ',' :: gap) ++ part ++ spaced gap false parts

theorem separated_eq_spaced (first : Bool) (parts : List (List Char)) :
    separated first parts = spaced [] first parts := by
  induction parts generalizing first with
  | nil => rfl
  | cons part parts ih => cases first <;> simp [separated, spaced, ih]

theorem spaced_cons (gap part : List Char) (parts : List (List Char)) :
    spaced gap true (part :: parts) = gap ++ List.intercalate (',' :: gap) (part :: parts) := by
  induction parts generalizing part with
  | nil => simp [spaced]
  | cons part' parts ih =>
    have hrest : spaced gap false (part' :: parts) = ',' :: spaced gap true (part' :: parts) := rfl
    rw [spaced, hrest, ih, List.intercalate_cons_cons]
    simp

section Spaced

variable {gap part : List Char} {parts : List (List Char)} {rest : List Symbol}

theorem symbolsOf_spaced (first : Bool) :
    symbolsOf (spaced gap first (part :: parts)) ++ rest =
      (if first then [] else [.char ',']) ++ (symbolsOf gap ++
        (symbolsOf part ++ (symbolsOf (spaced gap false parts) ++ rest))) := by
  cases first <;> simp [spaced]

theorem length_lt_spaced (hb : Begins part) (first : Bool) :
    (symbolsOf (spaced gap false parts) ++ rest).length <
      (symbolsOf (spaced gap first (part :: parts)) ++ rest).length := by
  obtain ⟨s, more, -, hs, -⟩ := hb
  rw [symbolsOf_spaced, hs]
  simp only [List.length_append, List.length_cons]
  omega

/-! ## The next element -/

theorem nextElement_closing (first : Bool) :
    nextElement first (.char ']' :: rest) = .ok none := rfl

theorem nextElement_first {s : Symbol} {k : Kind} (hs : kindOf? s = some k) :
    nextElement true (s :: rest) = .ok (some (s :: rest)) := by
  rw [nextElement, skipBlanks_of_kind hs]
  split
  next h => cases h
  next h =>
    cases h
    cases hs
  next h =>
    cases h
    cases hs
  next => rfl

theorem nextElement_comma {s : Symbol} {k : Kind} (hs : kindOf? s = some k) :
    nextElement false (.char ',' :: s :: rest) = .ok (some (s :: rest)) := by
  have hcomma : skipBlanks (.char ',' :: s :: rest) = .char ',' :: s :: rest := rfl
  rw [nextElement, hcomma]
  simp only [Bool.false_eq_true, if_false, skipBlanks_of_kind hs]
  split
  next h => cases h
  next h =>
    cases h
    cases hs
  next => rfl

theorem nextElement_skipBlanks (first : Bool) (text : List Symbol) :
    nextElement first (skipBlanks text) = nextElement first text := by
  rw [nextElement, nextElement, skipBlanks_skipBlanks]

theorem nextElement_comma_skipBlanks (text : List Symbol) :
    nextElement false (.char ',' :: skipBlanks text) = nextElement false (.char ',' :: text) := by
  have hcomma (text : List Symbol) : skipBlanks (.char ',' :: text) = .char ',' :: text := rfl
  rw [nextElement, nextElement, hcomma, hcomma]
  simp only [skipBlanks_skipBlanks, Bool.false_eq_true, if_false]

/-- The next element is the next part, from behind its gap on. -/
theorem nextElement_spaced (hgap : Blanks gap) (hb : Begins part) (first : Bool)
    (rest : List Symbol) :
    nextElement first (symbolsOf (spaced gap first (part :: parts)) ++ rest) =
      .ok (some (symbolsOf part ++ (symbolsOf (spaced gap false parts) ++ rest))) := by
  obtain ⟨s, more, k, hs, hk⟩ := hb
  rw [symbolsOf_spaced, hs, List.cons_append]
  cases first with
  | true =>
    rw [if_pos rfl, List.nil_append, ← nextElement_skipBlanks, skipBlanks_symbolsOf hgap,
      skipBlanks_of_kind hk, nextElement_first hk]
  | false =>
    rw [if_neg Bool.false_ne_true, List.singleton_append, ← nextElement_comma_skipBlanks,
      skipBlanks_symbolsOf hgap, skipBlanks_of_kind hk, nextElement_comma hk]

end Spaced

end OpenPulls.Json
