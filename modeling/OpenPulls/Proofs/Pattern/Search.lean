import OpenPulls.Pattern.Node
import OpenPulls.Proofs.Steps

/-!
# The search finds what patterns match

`Node.ends` carries a set of places through a pattern. `mem_ends_iff` says that it ends up with the
places that a match from one of them leads to, and `isMatch_iff` that a pattern is found in a text
exactly if it matches some part of it.

* `Carries`: what becomes of a set of places is what a relation leads to from them.
* `Frontier`: the invariant of a repetition. A place that is not carried on in the next round leads
  to nothing new, so that the rounds reach what steps of the relation reach.

A repetition without bound makes one round for each place of the text. That is enough, since a round
that stays where it is can be left out and any other goes on in the text (`exists_after_le`).
-/

namespace OpenPulls.Pattern

open OpenPulls.Unicode (CharSet)

/-! ## Sets of places -/

variable {p q : Nat} {ps qs : List Nat}

theorem mem_dropRepeats : q ∈ dropRepeats ps ↔ q ∈ ps := by
  fun_induction dropRepeats ps with
  | case1 a rest ih => rw [ih, List.mem_cons (a := q) (l := a :: rest), List.mem_cons, or_self_left]
  | case2 a b rest _ ih => rw [List.mem_cons, ih, ← List.mem_cons]
  | case3 => rfl

theorem mem_placesUnion : q ∈ placesUnion ps qs ↔ q ∈ ps ∨ q ∈ qs := by
  rw [placesUnion, mem_dropRepeats, List.mem_merge]

/-- The places that become of some others are those that the relation leads to from them. -/
def Carries (R : Nat → Nat → Prop) (f : List Nat → List Nat) : Prop :=
  ∀ ps q, q ∈ f ps ↔ ∃ p ∈ ps, R p q

section Rounds

variable {R : Nat → Nat → Prop} {f : List Nat → List Nat} {reached fresh : List Nat}

theorem Carries.rounds (h : Carries R f) (n : Nat) : Carries (After R n) (rounds f n) := by
  induction n with
  | zero =>
    intro ps q
    constructor
    · intro hq
      exact ⟨q, hq, .refl q⟩
    · intro hq
      rcases hq with ⟨p, hp, hpq⟩
      cases hpq
      exact hp
  | succ n ih =>
    intro ps q
    rw [Pattern.rounds]
    split
    next hnone => simp [List.isEmpty_iff.mp hnone]
    next =>
      rw [ih]
      constructor
      · intro hq
        rcases hq with ⟨b, hb, hbq⟩
        rcases (h ps b).mp hb with ⟨p, hp, hpb⟩
        exact ⟨p, hp, .cons hpb hbq⟩
      · intro hq
        rcases hq with ⟨p, hp, _ | ⟨hpb, hbq⟩⟩
        exact ⟨_, (h ps _).mpr ⟨p, hp, hpb⟩, hbq⟩

/-- The places that the next round adds. -/
def added (f : List Nat → List Nat) (reached fresh : List Nat) : List Nat :=
  (f fresh).filter fun p => !reached.contains p

theorem mem_added : q ∈ added f reached fresh ↔ q ∈ f fresh ∧ q ∉ reached := by
  simp [added]

theorem roundsUpTo_succ (f : List Nat → List Nat) (n : Nat) (reached fresh : List Nat) :
    roundsUpTo f (n + 1) reached fresh =
      if (added f reached fresh).isEmpty then reached
      else roundsUpTo f n (placesUnion reached (added f reached fresh))
        (added f reached fresh) := rfl

/-- The fresh places are reached, and what the other ones lead to is reached as well. -/
structure Frontier (R : Nat → Nat → Prop) (reached fresh : List Nat) : Prop where
  subset : fresh ⊆ reached
  closed : ∀ p ∈ reached, p ∉ fresh → ∀ q, R p q → q ∈ reached

namespace Frontier

theorem refl (R : Nat → Nat → Prop) (ps : List Nat) : Frontier R ps ps where
  subset := List.Subset.refl ps
  closed _ hp hfresh := absurd hp hfresh

/-- A place that a reached one leads to is reached, or added in the next round. -/
theorem mem_or_mem_added (h : Frontier R reached fresh) (hf : Carries R f) (hp : p ∈ reached)
    (hpq : R p q) : q ∈ reached ∨ q ∈ added f reached fresh := by
  by_cases hq : q ∈ reached
  · exact .inl hq
  · by_cases hfresh : p ∈ fresh
    · exact .inr (mem_added.mpr ⟨(hf fresh q).mpr ⟨p, hfresh, hpq⟩, hq⟩)
    · exact absurd (h.closed p hp hfresh q hpq) hq

theorem next (h : Frontier R reached fresh) (hf : Carries R f) :
    Frontier R (placesUnion reached (added f reached fresh)) (added f reached fresh) where
  subset q hq := mem_placesUnion.mpr (.inr hq)
  closed p hp hadded q hpq := by
    have hreached : p ∈ reached := (mem_placesUnion.mp hp).resolve_right hadded
    exact mem_placesUnion.mpr (h.mem_or_mem_added hf hreached hpq)

/-- Where the next round adds nothing, no number of steps leads out of the reached places. -/
theorem mem_of_after (h : Frontier R reached fresh) (hf : Carries R f)
    (hnone : added f reached fresh = []) {n : Nat} (hp : p ∈ reached) (hpq : After R n p q) :
    q ∈ reached := by
  induction hpq with
  | refl => exact hp
  | cons hstep _ ih =>
    apply ih
    rcases h.mem_or_mem_added hf hp hstep with hb | hb
    · exact hb
    · rw [hnone] at hb
      exact absurd hb List.not_mem_nil

/-- The rounds reach what that many steps reach. -/
theorem mem_roundsUpTo (h : Frontier R reached fresh) (hf : Carries R f) (n : Nat) :
    q ∈ roundsUpTo f n reached fresh ↔ ∃ p ∈ reached, ∃ k ≤ n, After R k p q := by
  induction n generalizing reached fresh with
  | zero =>
    constructor
    · intro hq
      exact ⟨q, hq, 0, Nat.le_refl 0, .refl q⟩
    · intro hq
      rcases hq with ⟨p, hp, k, hk, hpq⟩
      rw [Nat.le_zero.mp hk] at hpq
      cases hpq
      exact hp
  | succ n ih =>
    rw [roundsUpTo_succ]
    split
    next hnone =>
      constructor
      · intro hq
        exact ⟨q, hq, 0, Nat.zero_le _, .refl q⟩
      · intro hq
        rcases hq with ⟨p, hp, k, -, hpq⟩
        exact h.mem_of_after hf (List.isEmpty_iff.mp hnone) hp hpq
    next =>
      rw [ih (h.next hf)]
      constructor
      · intro hq
        rcases hq with ⟨b, hb, k, hk, hbq⟩
        rcases mem_placesUnion.mp hb with hb | hb
        · exact ⟨b, hb, k, Nat.le_succ_of_le hk, hbq⟩
        · rcases (hf fresh b).mp (mem_added.mp hb).1 with ⟨p, hp, hpb⟩
          exact ⟨p, h.subset hp, k + 1, Nat.succ_le_succ hk, .cons hpb hbq⟩
      · intro hq
        rcases hq with ⟨p, hp, k, hk, hpq⟩
        cases hpq with
        | refl => exact ⟨q, mem_placesUnion.mpr (.inl hp), 0, Nat.zero_le n, .refl q⟩
        | cons hpb hbq =>
          exact ⟨_, mem_placesUnion.mpr (h.mem_or_mem_added hf hp hpb), _,
            Nat.le_of_succ_le_succ hk, hbq⟩

end Frontier

end Rounds

/-! ## Matches -/

namespace Node

variable {text : Array Char} {n a b : Node} {r : Nat}

/-- A match does not end before it begins, and it ends in the text if it has any characters. -/
theorem Matches.le (h : n.Matches text p q) : p ≤ q ∧ (q = p ∨ q ≤ text.size) := by
  induction h with
  | chars hc _ =>
    obtain ⟨hlt, -⟩ := Array.getElem?_eq_some_iff.mp hc
    exact ⟨Nat.le_succ _, .inr hlt⟩
  | seq _ _ iha ihb => omega
  | round _ _ ih ihrest => omega
  | optionalRound _ _ _ ih ihrest => omega
  | altLeft _ ih => exact ih
  | altRight _ ih => exact ih
  | capture _ ih => exact ih
  | _ => exact ⟨Nat.le_refl _, .inl rfl⟩

theorem matches_empty_iff : Matches text .empty p q ↔ q = p := by
  constructor
  · intro h
    cases h
    rfl
  · intro h
    subst h
    exact .empty

theorem matches_chars_iff {set : CharSet} :
    Matches text (.chars set) p q ↔ text[p]?.any set.contains = true ∧ q = p + 1 := by
  rw [Option.any_eq_true]
  constructor
  · intro h
    cases h with
    | chars hc hs => exact ⟨⟨_, hc, hs⟩, rfl⟩
  · intro h
    rcases h with ⟨⟨c, hc, hs⟩, rfl⟩
    exact .chars hc hs

theorem matches_assertion_iff {assertion : Assertion} :
    Matches text (.assertion assertion) p q ↔
      assertion.holds (charBefore text p) text[p]? = true ∧ q = p := by
  constructor
  · intro h
    cases h with
    | assertion h => exact ⟨h, rfl⟩
  · intro h
    rcases h with ⟨h, rfl⟩
    exact .assertion h

theorem matches_seq_iff :
    Matches text (.seq a b) p r ↔ ∃ q, a.Matches text p q ∧ b.Matches text q r := by
  constructor
  · intro h
    cases h with
    | seq ha hb => exact ⟨_, ha, hb⟩
  · intro h
    rcases h with ⟨q, ha, hb⟩
    exact .seq ha hb

theorem matches_alt_iff :
    Matches text (.alt a b) p q ↔ a.Matches text p q ∨ b.Matches text p q := by
  constructor
  · intro h
    cases h with
    | altLeft h => exact .inl h
    | altRight h => exact .inr h
  · intro h
    rcases h with h | h
    · exact .altLeft h
    · exact .altRight h

theorem matches_capture_iff : Matches text (.capture n) p q ↔ n.Matches text p q := by
  constructor
  · intro h
    cases h with
    | capture h => exact h
  · exact .capture

/-! ## Repetitions -/

section Repetition

variable {min k : Nat} {max : Option Nat}

/-- The rounds of a repetition: as many as it needs, and more as far as it allows them. The
induction is on the match, whose rest is a match of what is left of the repetition after a round. -/
theorem exists_after_of_matches (h : Matches text (.repetition n min max) p q) :
    ∃ k, (∀ m ∈ max, k ≤ m - min) ∧ After (n.Matches text) (min + k) p q := by
  generalize hrep : Node.repetition n min max = rep at h
  induction h generalizing min max with
  | stop =>
    cases hrep
    exact ⟨0, fun m _ => Nat.zero_le _, .refl _⟩
  | round hn _ _ ih =>
    cases hrep
    obtain ⟨k, hk, hafter⟩ := ih rfl
    refine ⟨k, fun m hm => ?_, ?_⟩
    · have hle := hk (m - 1) (Option.mem_map_of_mem (· - 1) hm)
      omega
    · rw [Nat.add_right_comm]
      exact .cons hn hafter
  | @optionalRound _ max _ _ _ hmax hn _ _ ih =>
    cases hrep
    obtain ⟨k, hk, hafter⟩ := ih rfl
    refine ⟨k + 1, fun m hm => ?_, .cons hn hafter⟩
    have hle := hk (m - 1) (Option.mem_map_of_mem (· - 1) hm)
    have hpos : m ≠ 0 := by
      rintro rfl
      exact hmax hm
    omega
  | _ => cases hrep

theorem matches_of_after_optional (hmax : ∀ m ∈ max, k ≤ m)
    (h : After (n.Matches text) k p q) : Matches text (.repetition n 0 max) p q := by
  induction k generalizing max p with
  | zero =>
    cases h
    exact .stop
  | succ k ih =>
    obtain _ | ⟨hn, hrest⟩ := h
    refine .optionalRound ?_ hn (ih (fun m hm => ?_) hrest)
    · rintro rfl
      exact absurd (hmax 0 rfl) (Nat.not_succ_le_zero k)
    · obtain ⟨m', hm', rfl⟩ := Option.mem_map.mp hm
      exact Nat.le_sub_one_of_lt (hmax m' hm')

theorem matches_of_after (hmax : ∀ m ∈ max, k ≤ m - min)
    (h : After (n.Matches text) (min + k) p q) : Matches text (.repetition n min max) p q := by
  induction min generalizing max p with
  | zero =>
    rw [Nat.zero_add] at h
    exact matches_of_after_optional hmax h
  | succ min ih =>
    rw [Nat.add_right_comm] at h
    obtain _ | ⟨hn, hrest⟩ := h
    refine .round hn (ih (fun m hm => ?_) hrest)
    obtain ⟨m', hm', rfl⟩ := Option.mem_map.mp hm
    have hle := hmax m' hm'
    omega

theorem matches_repetition_iff :
    Matches text (.repetition n min max) p q ↔
      ∃ k, (∀ m ∈ max, k ≤ m - min) ∧ After (n.Matches text) (min + k) p q :=
  ⟨exists_after_of_matches, fun ⟨_, hmax, h⟩ => matches_of_after hmax h⟩

/-- Rounds that stay where they are can be left out. -/
theorem exists_after_le_sub (h : After (n.Matches text) k p q) :
    p ≤ q ∧ (q = p ∨ q ≤ text.size) ∧ ∃ j ≤ q - p, After (n.Matches text) j p q := by
  induction h with
  | refl p => exact ⟨Nat.le_refl p, .inl rfl, 0, Nat.zero_le _, .refl p⟩
  | @cons _ p b q hn _ ih =>
    obtain ⟨hpb, hb⟩ := hn.le
    obtain ⟨hbq, hq, j, hj, hafter⟩ := ih
    refine ⟨hpb.trans hbq, by omega, ?_⟩
    rcases Nat.eq_or_lt_of_le hpb with rfl | hlt
    · exact ⟨j, hj, hafter⟩
    · exact ⟨j + 1, by omega, .cons hn hafter⟩

/-- One round for each place of the text is enough. -/
theorem exists_after_le (h : After (n.Matches text) k p q) :
    ∃ j ≤ text.size + 1, After (n.Matches text) j p q := by
  obtain ⟨-, hq, j, hj, hafter⟩ := exists_after_le_sub h
  exact ⟨j, by omega, hafter⟩

/-- The bound that the search sets to the optional rounds loses no match. -/
theorem exists_le_bound_iff :
    (∃ k ≤ (max.map (· - min)).getD (text.size + 1), After (n.Matches text) k p q) ↔
      ∃ k, (∀ m ∈ max, k ≤ m - min) ∧ After (n.Matches text) k p q := by
  cases max with
  | some m => simp
  | none =>
    constructor
    · intro hk
      rcases hk with ⟨k, -, h⟩
      exact ⟨k, nofun, h⟩
    · intro hk
      rcases hk with ⟨k, -, h⟩
      exact exists_after_le h

theorem carries_repetition (h : Carries (n.Matches text) (n.ends text)) :
    Carries (Matches text (.repetition n min max)) (ends text (.repetition n min max)) := by
  intro ps r
  rw [ends, (Frontier.refl _ _).mem_roundsUpTo h]
  constructor
  · intro hr
    rcases hr with ⟨q, hq, hqr⟩
    rcases exists_le_bound_iff.mp hqr with ⟨k, hmax, hqr⟩
    rcases (h.rounds min ps q).mp hq with ⟨p, hp, hpq⟩
    exact ⟨p, hp, matches_of_after hmax (hpq.trans hqr)⟩
  · intro hr
    rcases hr with ⟨p, hp, hpr⟩
    rcases matches_repetition_iff.mp hpr with ⟨k, hmax, hpr⟩
    rcases hpr.split with ⟨q, hpq, hqr⟩
    exact ⟨q, (h.rounds min ps q).mpr ⟨p, hp, hpq⟩, exists_le_bound_iff.mpr ⟨k, hmax, hqr⟩⟩

end Repetition

/-! ## The search -/

theorem carries_ends (text : Array Char) (n : Node) : Carries (n.Matches text) (n.ends text) := by
  induction n with
  | empty =>
    intro ps q
    simp [ends, matches_empty_iff]
  | chars set =>
    intro ps q
    simp [ends, matches_chars_iff, eq_comm (a := q)]
  | assertion a =>
    intro ps q
    rw [ends, List.mem_filter]
    simp only [matches_assertion_iff]
    constructor
    · intro hq
      exact ⟨q, hq.1, hq.2, rfl⟩
    · intro hq
      rcases hq with ⟨p, hp, h, rfl⟩
      exact ⟨hp, h⟩
  | seq a b iha ihb =>
    intro ps r
    simp only [ends, ihb _ r, iha ps, matches_seq_iff]
    constructor
    · intro hr
      rcases hr with ⟨q, ⟨p, hp, hpq⟩, hqr⟩
      exact ⟨p, hp, q, hpq, hqr⟩
    · intro hr
      rcases hr with ⟨p, hp, q, hpq, hqr⟩
      exact ⟨q, ⟨p, hp, hpq⟩, hqr⟩
  | alt a b iha ihb =>
    intro ps q
    simp only [ends, mem_placesUnion, iha ps q, ihb ps q, matches_alt_iff, and_or_left, exists_or]
  | repetition n min max ih => exact carries_repetition ih
  | capture n ih =>
    intro ps q
    simp only [ends, ih ps q, matches_capture_iff]

/-- **The search ends where a match from one of its places ends.** -/
theorem mem_ends_iff : q ∈ n.ends text ps ↔ ∃ p ∈ ps, n.Matches text p q := carries_ends text n ps q

/-- **A pattern is found in a text exactly if it matches a part of it.** -/
theorem isMatch_iff {n : Node} {text : List Char} :
    n.isMatch text = true ↔ ∃ p q, p ≤ text.length ∧ n.Matches text.toArray p q := by
  rw [isMatch, Bool.not_eq_true', List.isEmpty_eq_false_iff_exists_mem, exists_comm]
  simp only [mem_ends_iff, List.mem_range, Nat.lt_succ_iff]

end Node

end OpenPulls.Pattern
