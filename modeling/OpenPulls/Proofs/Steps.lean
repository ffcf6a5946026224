import Mathlib.Data.Fintype.EquivFin
import Mathlib.Logic.Relator

/-!
# Steps that lead in a circle

A relation says which step can be taken from a state, and from each state there is at most one. So
either the steps come to an end, or some state is reached a second time; from then on they go round
in a circle.

* `After`: a number of steps leads from one state to another.
* `neverReturns_iff`: among finitely many states, no state is reached twice exactly if the steps
  come to an end.
* `Endless.circle`: otherwise the states repeat.
-/

namespace OpenPulls

variable {α : Type} {Step : α → α → Prop} {start a b c : α} {m n : Nat}

/-- A number of steps leads from one state to another. -/
inductive After (Step : α → α → Prop) : Nat → α → α → Prop
  | refl (a : α) : After Step 0 a a
  | cons {n : Nat} {a b c : α} : Step a b → After Step n b c → After Step (n + 1) a c

namespace After

theorem trans (h : After Step m a b) (h' : After Step n b c) : After Step (m + n) a c := by
  induction h with
  | refl => rwa [Nat.zero_add]
  | cons hs _ ih => rw [Nat.add_right_comm]; exact .cons hs (ih h')

theorem split (h : After Step (m + n) a c) : ∃ b, After Step m a b ∧ After Step n b c := by
  induction m generalizing a with
  | zero =>
    rw [Nat.zero_add] at h
    exact ⟨a, .refl a, h⟩
  | succ m ih =>
    rw [Nat.add_right_comm] at h
    obtain _ | ⟨hs, h⟩ := h
    obtain ⟨b, hb, hc⟩ := ih h
    exact ⟨b, .cons hs hb, hc⟩

theorem unique (hdet : Relator.RightUnique Step) (h : After Step n a b) (h' : After Step n a c) :
    b = c := by
  induction h with
  | refl =>
    cases h'
    rfl
  | cons hs _ ih =>
    obtain _ | ⟨hs', h'⟩ := h'
    rw [← hdet hs hs'] at h'
    exact ih h'

end After

/-- No state is reached a second time. -/
def NeverReturns (Step : α → α → Prop) (start : α) : Prop :=
  ∀ m n a, After Step m start a → After Step n start a → m = n

/-- There is always one more step. -/
def Endless (Step : α → α → Prop) (start : α) : Prop := ∀ n, ∃ a, After Step n start a

/-- Steps that come to an end do so within some number. -/
theorem exists_bound_of_not_endless (h : ¬ Endless Step start) :
    ∃ bound, ∀ n, bound ≤ n → ¬ ∃ a, After Step n start a := by
  simp only [Endless, not_forall] at h
  obtain ⟨bound, hb⟩ := h
  refine ⟨bound, fun n hle => ?_⟩
  rintro ⟨a, ha⟩
  obtain ⟨more, rfl⟩ := Nat.exists_eq_add_of_le hle
  obtain ⟨b, hb', -⟩ := ha.split
  exact hb ⟨b, hb'⟩

/-- The way back to a state can be taken any number of times. -/
theorem endless_of_returns {period : Nat} (hpos : 0 < period) (h : After Step m start a)
    (hback : After Step period a a) : Endless Step start := by
  have rounds (k : Nat) : After Step (k * period) a a := by
    induction k with
    | zero => rw [Nat.zero_mul]; exact .refl a
    | succ k ih => rw [Nat.succ_mul]; exact ih.trans hback
  intro n
  obtain ⟨more, hmore⟩ := Nat.exists_eq_add_of_le
    (show n ≤ m + n * period from Nat.le_add_left_of_le (Nat.le_mul_of_pos_right n hpos))
  have hall := h.trans (rounds n)
  rw [hmore] at hall
  obtain ⟨b, hb, -⟩ := hall.split
  exact ⟨b, hb⟩

section Finite

variable [Finite α]

/-- With finitely many states, one of them is reached twice if the steps do not end. -/
theorem Endless.exists_returns (h : Endless Step start) :
    ∃ m period a, 0 < period ∧ After Step m start a ∧ After Step (m + period) start a := by
  choose state hstate using h
  have hsame : ¬ Function.Injective state := not_injective_infinite_finite state
  simp only [Function.Injective, not_forall] at hsame
  obtain ⟨m, n, heq, hne⟩ := hsame
  have hm := hstate m
  rw [heq] at hm
  rcases Nat.lt_or_gt_of_ne hne with hlt | hlt
  · obtain ⟨k, rfl⟩ := Nat.exists_eq_add_of_lt hlt
    exact ⟨m, k + 1, state (m + k + 1), Nat.succ_pos k, hm, hstate (m + k + 1)⟩
  · obtain ⟨k, rfl⟩ := Nat.exists_eq_add_of_lt hlt
    exact ⟨n, k + 1, state n, Nat.succ_pos k, hstate n, hm⟩

/-- **No state is reached twice exactly if the steps come to an end.** -/
theorem neverReturns_iff (hdet : Relator.RightUnique Step) :
    NeverReturns Step start ↔ ¬ Endless Step start := by
  constructor
  · intro h hend
    obtain ⟨m, period, a, hpos, ha, ha'⟩ := hend.exists_returns
    exact absurd (h m (m + period) a ha ha') (by omega)
  · intro hend m n a hm hn
    by_contra hne
    have back {m n : Nat} (hlt : m < n) (hm : After Step m start a) (hn : After Step n start a) :
        Endless Step start := by
      obtain ⟨k, rfl⟩ := Nat.exists_eq_add_of_lt hlt
      obtain ⟨b, hb, hback⟩ := After.split (m := m) (n := k + 1) hn
      rw [hb.unique hdet hm] at hback
      exact endless_of_returns (Nat.succ_pos k) hm hback
    rcases Nat.lt_or_gt_of_ne hne with hlt | hlt
    · exact hend (back hlt hm hn)
    · exact hend (back hlt hn hm)

/-- **Steps without end go round in a circle**, possibly after some that lead to it. -/
theorem Endless.circle (hdet : Relator.RightUnique Step) (h : Endless Step start) :
    ∃ (state : Nat → α) (first period : Nat), 0 < period ∧ (∀ n, After Step n start (state n)) ∧
      ∀ n, first ≤ n → state (n + period) = state n := by
  obtain ⟨m, period, a, hpos, ha, ha'⟩ := h.exists_returns
  choose state hstate using h
  refine ⟨state, m, period, hpos, hstate, fun n hle => ?_⟩
  obtain ⟨k, rfl⟩ := Nat.exists_eq_add_of_le hle
  obtain ⟨b, hb, hrest⟩ := (hstate (m + k)).split
  rw [hb.unique hdet ha] at hrest
  have hlater := ha'.trans hrest
  rw [Nat.add_right_comm] at hlater
  exact (hstate (m + k + period)).unique hdet hlater

end Finite

end OpenPulls
