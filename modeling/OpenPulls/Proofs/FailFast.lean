import OpenPulls.Proofs.Session

/-!
# Failing fast

A failed page request is the last one of a run, and its failure is how the run ends.

`FailFast` says this of the outcome and the log of a run. Every session that is put together from
page reads keeps it (`uniform_failFast`): a sequence goes on only after a result, and then all
requests so far were answered. `Operation.failFast_run` draws the consequences: no operation asks
for anything after a failure, asks again, changes the failure, or has a result in spite of one.
-/

namespace OpenPulls

variable {σ α : Type}

/-- The request was answered with a page. -/
def Exchange.Answered (x : Exchange) : Prop := ∃ page, x.answer = .ok page

/-- All requests were answered, or all but the last and its failure is the outcome. -/
inductive FailFast : Outcome α → List Exchange → Prop
  | returned {a : α} {log : List Exchange} : (∀ x ∈ log, x.Answered) → FailFast (.returned a) log
  | failed {before : List Exchange} {r : PageRequest} {f : Failure} :
      (∀ x ∈ before, x.Answered) → FailFast (.failed f) (before ++ [⟨r, .error f⟩])
  | unfinished {log : List Exchange} : (∀ x ∈ log, x.Answered) → FailFast .unfinished log

namespace FailFast

variable {outcome : Outcome α} {log : List Exchange}

/-- What comes after a log without failures decides. -/
theorem append {before : List Exchange} (hb : ∀ x ∈ before, x.Answered)
    (h : FailFast outcome log) : FailFast outcome (before ++ log) := by
  cases h with
  | returned hl => exact .returned (List.forall_mem_append.mpr ⟨hb, hl⟩)
  | unfinished hl => exact .unfinished (List.forall_mem_append.mpr ⟨hb, hl⟩)
  | failed hl =>
    rw [← List.append_assoc]
    exact .failed (List.forall_mem_append.mpr ⟨hb, hl⟩)

/-- A sequence that stops at its first part ends as that part does. -/
theorem of_failed {β : Type} {f : Failure} (h : FailFast (.failed f : Outcome α) log) :
    FailFast (.failed f : Outcome β) log := by
  cases h with
  | failed hl => exact .failed hl

theorem of_unfinished {β : Type} (h : FailFast (.unfinished : Outcome α) log) :
    FailFast (.unfinished : Outcome β) log := by
  cases h with
  | unfinished hl => exact .unfinished hl

theorem answered_of_returned {a : α} (h : FailFast (.returned a) log) : ∀ x ∈ log, x.Answered := by
  cases h with
  | returned hl => exact hl

theorem answered_of_unfinished (h : FailFast (.unfinished : Outcome α) log) :
    ∀ x ∈ log, x.Answered := by
  cases h with
  | unfinished hl => exact hl

theorem answered_dropLast (h : FailFast outcome log) : ∀ x ∈ log.dropLast, x.Answered := by
  intro x hx
  cases h with
  | returned hl => exact hl x (List.dropLast_subset _ hx)
  | unfinished hl => exact hl x (List.dropLast_subset _ hx)
  | failed hl =>
    rw [List.dropLast_concat] at hx
    exact hl x hx

/-- The outcome is a failure exactly if the last request failed with it. -/
theorem failed_iff (h : FailFast outcome log) (f : Failure) :
    outcome = .failed f ↔ ∃ x, log.getLast? = some x ∧ x.answer = .error f := by
  have noError (hl : ∀ x ∈ log, x.Answered) :
      ¬ ∃ x, log.getLast? = some x ∧ x.answer = .error f := by
    rintro ⟨x, hx, hf⟩
    obtain ⟨page, hp⟩ := hl x (List.mem_of_getLast? hx)
    rw [hp] at hf
    cases hf
  cases h with
  | returned hl => exact iff_of_false (by simp) (noError hl)
  | unfinished hl => exact iff_of_false (by simp) (noError hl)
  | failed hl =>
    rw [List.getLast?_concat]
    constructor
    · rintro ⟨⟩
      exact ⟨_, rfl, rfl⟩
    · rintro ⟨x, hx, hf⟩
      cases hx
      cases hf
      rfl

/-- Nothing comes after a request that was not answered. -/
theorem eq_nil_of_not_answered {before after : List Exchange} {x : Exchange}
    (h : FailFast outcome (before ++ x :: after)) (hx : ¬ x.Answered) : after = [] := by
  by_cases hne : after = []
  · exact hne
  · refine absurd (h.answered_dropLast x ?_) hx
    rw [List.dropLast_append_cons, List.dropLast_cons_of_ne_nil hne]
    exact List.mem_append_right _ List.mem_cons_self

end FailFast

theorem Session.failFast_ask (source : Source σ) (r : PageRequest) (state : σ) :
    FailFast ((ask source r).run state).outcome ((ask source r).run state).log := by
  cases h : (source state r).1 with
  | ok page =>
    rw [run_ask_ok h]
    refine .returned fun x hx => ?_
    rw [List.mem_singleton.mp hx]
    exact ⟨page, rfl⟩
  | error f =>
    rw [run_ask_error h]
    show FailFast (.failed f) ([] ++ [_])
    exact .failed fun _ hx => absurd hx List.not_mem_nil

theorem uniform_failFast (source : Source σ) :
    Uniform (Session.reader source) (Session.reader source) fun _ t _ =>
      ∀ state, FailFast (t.run state).outcome (t.run state).log where
  result _ _ := .returned fun _ hx => absurd hx List.not_mem_nil
  sequence {_ _ t _ next _} ht hnext state := by
    have hs := ht state
    cases h : (t.run state).outcome with
    | returned a =>
      rw [Session.run_bind_returned h]
      rw [h] at hs
      exact (hnext a _).append hs.answered_of_returned
    | failed f =>
      rw [h] at hs
      rw [Session.run_bind_failed h]
      exact hs.of_failed
    | unfinished =>
      rw [h] at hs
      rw [Session.run_bind_unfinished h]
      exact hs.of_unfinished
  page r state := Session.failFast_ask source r state
  giveUp _ _ := .unfinished fun _ hx => absurd hx List.not_mem_nil

theorem Operation.failFast (o : Operation) (source : Source σ) (limit : Nat) (s : Selection)
    (state : σ) :
    FailFast (o.run source limit s state).outcome (o.run source limit s state).log :=
  (uniform_failFast source).perform (.inl rfl) s o state

theorem Operation.Ends.failFast {o : Operation} {source : Source σ} {s : Selection} {state : σ}
    {run : Run σ o.Result} (h : o.Ends source s state run) : FailFast run.outcome run.log := by
  obtain ⟨-, limit, rfl⟩ := h
  exact Operation.failFast o source limit s state

/-- **Operations fail fast.** Every page request but the last was answered; the operation fails
exactly if the last request failed, and with that failure; it has a result only if every request
was answered; and no request follows a failed one. -/
theorem Operation.failFast_run (o : Operation) (source : Source σ) (limit : Nat) (s : Selection)
    (state : σ) :
    (∀ x ∈ (o.run source limit s state).log.dropLast, x.Answered) ∧
    (∀ f, (o.run source limit s state).outcome = .failed f ↔
      ∃ x, (o.run source limit s state).log.getLast? = some x ∧ x.answer = .error f) ∧
    (∀ a, (o.run source limit s state).outcome = .returned a →
      ∀ x ∈ (o.run source limit s state).log, x.Answered) ∧
    (∀ before x after, (o.run source limit s state).log = before ++ x :: after →
      ¬ x.Answered → after = []) := by
  have h : FailFast (o.run source limit s state).outcome (o.run source limit s state).log :=
    (uniform_failFast source).perform (.inl rfl) s o state
  refine ⟨h.answered_dropLast, h.failed_iff, fun a ha => ?_, fun before x after hlog hx => ?_⟩
  · rw [ha] at h
    exact h.answered_of_returned
  · rw [hlog] at h
    exact h.eq_nil_of_not_answered hx

end OpenPulls
