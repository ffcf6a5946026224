import OpenPulls.Proofs.Json.Values

/-!
# Skipping written values

Any written value can be skipped, whatever its kind and depth (`skipValue_written`).

Skipping keeps a stack of open brackets. A value is skipped if it leads from the place before it to
the place behind it with the same stack (`Skips`). For an array or an object this follows from the
same for its items, one item after the other (`skips_array`, `skips_object`), so the proof is an
induction over trees (`Tree.induction`).
-/

namespace OpenPulls.Json

open OpenPulls.Text (Symbol)

/-- Induction over trees: an array follows from its items, and an object from the values of its
members. -/
@[elab_as_elim]
theorem Tree.induction {motive : Tree → Prop} (null : motive .null)
    (boolean : ∀ b, motive (.boolean b)) (number : ∀ n, motive (.number n))
    (string : ∀ s, motive (.string s))
    (array : ∀ items, (∀ t ∈ items, motive t) → motive (.array items))
    (object : ∀ members, (∀ m ∈ members, motive m.2) → motive (.object members)) :
    ∀ t, motive t
  | .null => null
  | .boolean b => boolean b
  | .number n => number n
  | .string s => string s
  | .array items => array items fun t _ =>
      Tree.induction null boolean number string array object t
  | .object members => object members fun m _ =>
      Tree.induction null boolean number string array object m.2
decreasing_by
  all_goals
    simp_wf
  · have := List.sizeOf_lt_of_mem ‹t ∈ items›
    omega
  · have := List.sizeOf_lt_of_mem ‹m ∈ members›
    have hm : sizeOf m = 1 + sizeOf m.1 + sizeOf m.2 := rfl
    omega

/-! ## Steps -/

/-- Where skipping goes on. -/
def Skip.rest : Skip → List Symbol
  | .value _ rest | .after _ rest => rest

section Steps

variable {stack : List Bracket} {text : List Symbol} {s : Skip}

theorem skipFrom_value (h : skipValueStep stack text = .ok s) (hlt : s.rest.length < text.length) :
    skipFrom (.value stack text) = skipFrom s := by
  rw [skipFrom, h]
  cases s <;> exact dif_pos hlt

theorem skipFrom_after {b : Bracket} (h : skipAfterStep b stack text = .ok s)
    (hlt : s.rest.length < text.length) :
    skipFrom (.after (b :: stack) text) = skipFrom s := by
  rw [skipFrom, h]
  cases s <;> exact dif_pos hlt

end Steps

/-- Skipping the value leads to what follows it, whatever is open. -/
def Skips (t : Tree) : Prop :=
  ∀ stack rest, Ends rest →
    skipFrom (.value stack (symbolsOf t.written ++ rest)) = skipFrom (.after stack rest)

/-- A value that is skipped in one step. -/
theorem Skips.of_step {t : Tree}
    (h : ∀ stack rest, Ends rest →
      skipValueStep stack (symbolsOf t.written ++ rest) = .ok (.after stack rest)) :
    Skips t := by
  intro stack rest hrest
  obtain ⟨s, text, hs, -⟩ := exists_lead t
  refine skipFrom_value (h stack rest hrest) ?_
  rw [hs, Skip.rest, List.cons_append, List.length_cons, List.length_append]
  omega

/-! ## Simple values -/

theorem skips_null : Skips .null := by
  refine .of_step fun stack rest _ => ?_
  rw [Tree.written]
  exact word_then (Skip.after stack) ['u', 'l', 'l'] rest

theorem skips_boolean (b : Bool) : Skips (.boolean b) := by
  refine .of_step fun stack rest _ => ?_
  cases b with
  | true =>
    rw [Tree.written]
    exact word_then (Skip.after stack) ['r', 'u', 'e'] rest
  | false =>
    rw [Tree.written]
    exact word_then (Skip.after stack) ['a', 'l', 's', 'e'] rest

theorem skips_string (s : String) : Skips (.string s) := by
  refine .of_step fun stack rest _ => ?_
  rw [Tree.written, writtenString]
  show (do
    return Skip.after stack (← skipString
      (symbolsOf (s.toList.flatMap writtenChar ++ ['"']) ++ rest))) = _
  rw [skipString_written]
  rfl

/-- A number without sign is skipped from its first digit on. -/
theorem skipValueStep_digit {c : Char} (hc : c.isDigit = true) (stack : List Bracket)
    (text : List Symbol) :
    skipValueStep stack (.char c :: text) =
      (do return Skip.after stack (← skipUnsignedPart (.char c :: text))) := by
  rw [skipValueStep, skipBlanks_of_kind (kindOf?_digit hc)]
  split
  case h_9 s rest _ _ _ _ _ _ _ heq =>
    cases heq
    rw [if_pos (isDigit_of_isDigit hc)]
  all_goals
    rename_i heq
    cases heq
  all_goals cases hc

theorem skips_number (n : Numeral) : Skips (.number n) := by
  refine .of_step fun stack rest hrest => ?_
  have hskip := skipUnsignedPart_written n hrest
  rw [Tree.written, Numeral.written]
  cases n.isNegative with
  | true =>
    show (do return Skip.after stack (← skipUnsignedPart
      (symbolsOf (Nat.toDigits 10 n.whole ++ n.behindWhole) ++ rest))) = _
    rw [symbolsOf_append, List.append_assoc, hskip]
    rfl
  | false =>
    obtain ⟨c, cs, hcs, hc⟩ := exists_digit_cons n.whole
    rw [hcs, symbolsOf_cons, List.cons_append] at hskip
    simp only [Bool.false_eq_true, if_false, List.nil_append, hcs, symbolsOf_append,
      symbolsOf_cons, List.cons_append, List.append_assoc]
    rw [skipValueStep_digit hc, hskip]
    rfl

/-! ## Brackets -/

section Brackets

variable {stack : List Bracket} {rest : List Symbol}

/-- The items of an array are skipped one after the other, from the first one on. -/
theorem skipFrom_items (t : Tree) (items : List Tree) (h : ∀ u ∈ t :: items, Skips u) :
    skipFrom (.value (.square :: stack)
        (symbolsOf (separated true (Tree.writtenItems (t :: items))) ++ .char ']' :: rest)) =
      skipFrom (.after stack rest) := by
  induction items generalizing t with
  | nil =>
    simp only [Tree.writtenItems, separated, if_true, List.append_nil]
    have hends : Ends (.char ']' :: rest) := .inr (.inl rfl)
    rw [h t List.mem_cons_self _ _ hends]
    exact skipFrom_after rfl (Nat.lt_succ_self _)
  | cons t' items ih =>
    have hends : Ends (symbolsOf (separated false (Tree.writtenItems (t' :: items)))
        ++ .char ']' :: rest) := ends_separated (.inl rfl)
    have hlater := ih t' (List.forall_mem_of_forall_mem_cons h)
    rw [Tree.writtenItems, separated, if_pos rfl, symbolsOf_append, List.append_assoc,
      h t List.mem_cons_self _ _ hends, ← hlater]
    exact skipFrom_after rfl (Nat.lt_succ_self _)

theorem skipValueStep_square {s : Symbol} {k : Kind} (hs : kindOf? s = some k)
    (text : List Symbol) :
    skipValueStep stack (.char '[' :: s :: text) =
      .ok (.value (.square :: stack) (s :: text)) := by
  have hopening : skipBlanks (.char '[' :: s :: text) = .char '[' :: s :: text := rfl
  rw [skipValueStep, hopening]
  simp only [skipBlanks_of_kind hs]
  split
  next h => cases h
  next h =>
    cases h
    cases hs
  next => rfl

theorem skips_array {items : List Tree} (h : ∀ t ∈ items, Skips t) : Skips (.array items) := by
  intro stack rest _
  rw [Tree.written, symbolsOf_compact]
  cases items with
  | nil => exact skipFrom_value rfl (by simp [Skip.rest]; omega)
  | cons t items =>
    obtain ⟨s, text, hs, hlead⟩ := exists_lead t
    rw [← skipFrom_items t items h]
    refine skipFrom_value ?_ (Nat.lt_succ_self _)
    rw [Tree.writtenItems, separated, if_pos rfl, symbolsOf_append, hs]
    exact skipValueStep_square hlead _

/-- The first member of an object, with what follows it. -/
theorem symbolsOf_members (m : String × Tree) (members : List (String × Tree)) :
    symbolsOf (separated true (Tree.writtenMembers (m :: members))) ++ rest =
      symbolsOf (writtenString m.1) ++ .char ':' :: (symbolsOf m.2.written
        ++ (symbolsOf (separated false (Tree.writtenMembers members)) ++ rest)) := by
  simp [Tree.writtenMembers, separated, member]

/-- A string begins with a quote. -/
theorem symbolsOf_writtenString (text : String) (rest : List Symbol) :
    symbolsOf (writtenString text) ++ rest =
      .char '"' :: (symbolsOf (text.toList.flatMap writtenChar ++ ['"']) ++ rest) := rfl

/-- A key is skipped with its colon. -/
theorem skipKey_written (key : String) (rest : List Symbol) :
    skipKey (symbolsOf (writtenString key) ++ .char ':' :: rest) = .ok rest := by
  have hquote : kindOf? (.char '"') = some .string := rfl
  rw [symbolsOf_writtenString, skipKey, skipBlanks_of_kind hquote]
  simp only [skipString_written]
  rfl

/-- Behind its key the value of a member comes next. -/
theorem value_of_key (stack : List Bracket) (key : String) (rest : List Symbol) :
    (do return Skip.value stack (← skipKey (symbolsOf (writtenString key) ++ .char ':' :: rest))
        : Except Error Skip) =
      .ok (.value stack rest) := by
  rw [skipKey_written]
  rfl

/-- The members of an object are skipped one after the other, from the first value on. -/
theorem skipFrom_members (m : String × Tree) (members : List (String × Tree))
    (h : ∀ m' ∈ m :: members, Skips m'.2) :
    skipFrom (.value (.curly :: stack) (symbolsOf m.2.written
        ++ (symbolsOf (separated false (Tree.writtenMembers members)) ++ .char '\x7d' :: rest))) =
      skipFrom (.after stack rest) := by
  induction members generalizing m with
  | nil =>
    rw [h m List.mem_cons_self _ _ (ends_separated (.inr rfl))]
    exact skipFrom_after rfl (Nat.lt_succ_self _)
  | cons m' members ih =>
    have hlater := ih m' (List.forall_mem_of_forall_mem_cons h)
    have hcomma : symbolsOf (separated false (Tree.writtenMembers (m' :: members)))
          ++ .char '\x7d' :: rest =
        .char ',' :: (symbolsOf (separated true (Tree.writtenMembers (m' :: members)))
          ++ .char '\x7d' :: rest) := rfl
    rw [h m List.mem_cons_self _ _ (ends_separated (.inr rfl)), ← hlater, hcomma,
      symbolsOf_members]
    refine skipFrom_after (value_of_key (.curly :: stack) m'.1 _) ?_
    simp [Skip.rest]
    omega

theorem skips_object {members : List (String × Tree)} (h : ∀ m ∈ members, Skips m.2) :
    Skips (.object members) := by
  intro stack rest _
  rw [Tree.written, symbolsOf_compact]
  cases members with
  | nil => exact skipFrom_value rfl (by simp [Skip.rest]; omega)
  | cons m members =>
    rw [← skipFrom_members m members h, symbolsOf_members]
    refine skipFrom_value (value_of_key (.curly :: stack) m.1 _) ?_
    simp [Skip.rest]
    omega

end Brackets

theorem skips (t : Tree) : Skips t := by
  induction t using Tree.induction with
  | null => exact skips_null
  | boolean b => exact skips_boolean b
  | number n => exact skips_number n
  | string s => exact skips_string s
  | array items ih => exact skips_array ih
  | object members ih => exact skips_object ih

/-- **A written value can be skipped.** -/
theorem skipValue_written (t : Tree) {rest : List Symbol} (h : Ends rest) :
    skipValue (symbolsOf t.written ++ rest) = .ok rest := by
  rw [skipValue, skips t [] rest h, skipFrom]

end OpenPulls.Json
