import OpenPulls.Pattern.Basic
import OpenPulls.Proofs.Pattern.Search

/-!
# Patterns without special characters

A pattern in which no character has a meaning of its own is read as the sequence of its characters
(`node?_plain`), and it is found in a text exactly if it stands somewhere in it as a whole
(`isMatch_plain`).

`Node.Spells` says that a node matches a fixed sequence of characters wherever it stands, and
nothing else. Since the search finds every match (`Node.isMatch_iff`), overlaps are no matter.
-/

namespace OpenPulls.Pattern

open OpenPulls.Unicode (CharSet)

/-- The characters with a meaning of their own outside of brackets, and the closing brackets. -/
def specials : List Char :=
  ['\\', '.', '+', '*', '?', '(', ')', '|', '[', ']', '\x7b', '\x7d', '^', '$']

/-- Every character stands for itself. -/
def IsPlain (cs : List Char) : Prop := ∀ c ∈ cs, c ∉ specials

instance (cs : List Char) : Decidable (IsPlain cs) := List.decidableBAll (· ∉ specials) cs

/-! ## Search -/

namespace Node

/-- The node matches the characters where they stand, and nothing else. -/
def Spells (n : Node) (cs : List Char) : Prop :=
  ∀ (text : List Char) (p q : Nat),
    n.Matches text.toArray p q ↔ cs <+: text.drop p ∧ q = p + cs.length

theorem spells_empty : Spells .empty [] := by
  intro text p q
  simp [matches_empty_iff]

theorem spells_singleton (c : Char) : Spells (.chars (.singleton c)) [c] := by
  intro text p q
  have hstands : text[p]?.any (CharSet.singleton c).contains = true ↔ [c] <+: text.drop p := by
    rw [List.singleton_prefix_iff_head?_eq_some, List.head?_drop]
    cases text[p]? <;> simp [eq_comm]
  rw [matches_chars_iff, List.getElem?_toArray, hstands, List.length_singleton]

theorem Spells.seq {a b : Node} {cs ds : List Char} (ha : a.Spells cs) (hb : b.Spells ds) :
    Spells (.seq a b) (cs ++ ds) := by
  intro text p q
  rw [matches_seq_iff, List.length_append, ← Nat.add_assoc]
  constructor
  · rintro ⟨r, ha', hb'⟩
    obtain ⟨⟨rest, hrest⟩, rfl⟩ := (ha text p r).mp ha'
    obtain ⟨hds, rfl⟩ := (hb text _ q).mp hb'
    rw [← List.drop_drop, ← hrest, List.drop_left] at hds
    rw [← hrest]
    exact ⟨(List.prefix_append_right_inj cs).mpr hds, rfl⟩
  · rintro ⟨⟨rest, hrest⟩, rfl⟩
    refine ⟨p + cs.length, (ha text p _).mpr ⟨?_, rfl⟩, (hb text _ _).mpr ⟨?_, rfl⟩⟩
    · exact ⟨ds ++ rest, by rw [← hrest, List.append_assoc]⟩
    · rw [← List.drop_drop, ← hrest, List.append_assoc, List.drop_left]
      exact List.prefix_append ds rest

/-- A node that matches fixed characters is found exactly where they occur. -/
theorem Spells.isMatch_iff {n : Node} {cs : List Char} (h : n.Spells cs) (text : List Char) :
    n.isMatch text = true ↔ cs <:+: text := by
  rw [Node.isMatch_iff]
  constructor
  · rintro ⟨p, q, -, hmatch⟩
    obtain ⟨hstands, -⟩ := (h text p q).mp hmatch
    exact hstands.isInfix.trans (List.drop_suffix p text).isInfix
  · rintro ⟨before, after, rfl⟩
    refine ⟨before.length, _, by simp, (h _ _ _).mpr ⟨?_, rfl⟩⟩
    rw [List.append_assoc, List.drop_left]
    exact List.prefix_append cs after

end Node

/-! ## Reading -/

/-- The character as a part of a pattern. -/
def literal (c : Char) : Expr := .literal ⟨c, false⟩

theorem step?_plain {c : Char} (hc : c ∉ specials) (s : Expr.State) (rest : List Char) :
    Expr.step? s c rest = some (s.push (literal c), rest) := by
  simp only [specials, List.mem_cons, List.not_mem_nil, or_false, not_or] at hc
  unfold Expr.step?
  split <;> simp_all [literal]

theorem loop?_plain {cs : List Char} (h : IsPlain cs) (s : Expr.State) (hs : s.blanks = false) :
    Expr.loop? s cs = Expr.finish? { s with items := (cs.map literal).reverse ++ s.items } := by
  induction cs generalizing s with
  | nil =>
    rw [Expr.loop?, skip, hs]
    rfl
  | cons c cs ih =>
    obtain ⟨hc, hcs⟩ := List.forall_mem_cons.mp h
    have hpushed := ih hcs (s.push (literal c)) hs
    rw [Expr.loop?, skip, hs]
    simp only [Bool.false_eq_true, if_false, step?_plain hc]
    rw [dif_pos (by rw [List.length_cons]; exact Nat.lt_succ_self _), hpushed]
    simp [Expr.State.push, hs]

theorem ofReversed_two (d c : Expr) (es : List Expr) :
    Expr.ofReversed (es ++ [d, c]) = .sequence (c :: d :: es.reverse) := by
  rw [Expr.ofReversed, List.reverse_append]
  · rfl
  · rintro e he
    simpa using congrArg List.length he

/-- A single character is read as itself, and any other number of them as a sequence. -/
theorem ofReversed_literals (cs : List Char) :
    Expr.ofReversed (cs.map literal).reverse =
      match cs with
      | [c] => literal c
      | cs => .sequence (cs.map literal) := by
  rcases cs with _ | ⟨c, _ | ⟨d, cs⟩⟩
  · rfl
  · rfl
  · have hlast : ((c :: d :: cs).map literal).reverse =
        (cs.map literal).reverse ++ [literal d, literal c] := by simp
    rw [hlast, ofReversed_two, List.reverse_reverse]
    rfl

theorem deepest_literals (cs : List Char) : deepest (cs.map literal) = 0 := by
  induction cs with
  | nil => rfl
  | cons c cs ih => simp [deepest, literal, Expr.depth, ih]

/-- What is read is the characters in their order, and nests no deeper than one level. -/
theorem parse?_plain {source : String} (h : IsPlain source.toList) :
    Expr.parse? source = some (Expr.ofReversed (source.toList.map literal).reverse) := by
  have hdepth : (Expr.ofReversed (source.toList.map literal).reverse).depth ≤ nestingLimit := by
    rw [ofReversed_literals]
    rcases source.toList with _ | ⟨c, _ | ⟨d, cs⟩⟩
    · exact Nat.zero_le _
    · exact Nat.zero_le _
    · have hdeepest := deepest_literals (d :: cs)
      simp only [List.map_cons] at hdeepest ⊢
      rw [Expr.depth, hdeepest]
      exact (show 1 ≤ nestingLimit by decide)
  rw [Expr.parse?, loop?_plain h _ rfl, List.append_nil]
  show (if _ then _ else _) = _
  exact if_pos hdepth

theorem resolve?_literal (c : Char) :
    (literal c).resolve? Flags.initial = some (.chars (.singleton c), Flags.initial) := by
  simp [literal, Expr.resolve?, literalNode?, Flags.initial]

theorem resolveSequence?_literals (cs : List Char) :
    ∃ n, resolveSequence? Flags.initial (cs.map literal) = some (n, Flags.initial) ∧
      n.Spells cs := by
  induction cs with
  | nil => exact ⟨.empty, by rw [List.map_nil, resolveSequence?], Node.spells_empty⟩
  | cons c cs ih =>
    obtain ⟨n, hn, hspells⟩ := ih
    refine ⟨.seq (.chars (.singleton c)) n, ?_, (Node.spells_singleton c).seq hspells⟩
    rw [List.map_cons, resolveSequence?, resolve?_literal]
    simp [hn]

theorem node?_plain {source : String} (h : IsPlain source.toList) :
    ∃ n, node? source = some n ∧ n.Spells source.toList := by
  rw [node?, parse?_plain h, ofReversed_literals]
  split
  next c hc =>
    rw [hc]
    exact ⟨.chars (.singleton c), by simp [resolve?_literal], Node.spells_singleton c⟩
  next =>
    obtain ⟨n, hn, hspells⟩ := resolveSequence?_literals source.toList
    exact ⟨n, by simp [Expr.resolve?, hn], hspells⟩

/-- **A pattern without special characters is found exactly where it occurs.** -/
theorem isMatch_plain {source : String} {p : Pattern} (h : IsPlain source.toList)
    (hp : compile source = .ok p) (text : String) :
    p.isMatch text = true ↔ source.toList <:+: text.toList := by
  obtain ⟨n, hn, hspells⟩ := node?_plain h
  rw [compile, hn] at hp
  dsimp only at hp
  split at hp
  · cases hp
  · cases hp
    exact hspells.isMatch_iff text.toList

end OpenPulls.Pattern
