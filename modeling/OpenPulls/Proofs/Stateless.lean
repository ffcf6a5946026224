import Mathlib.Order.Filter.AtTopBot.Finite
import OpenPulls.Proofs.Session

/-!
# Sources without a memory

If the answers of a source depend on the request alone, so does what comes of an operation.

* `Source.AnswersBy`: the answers of a source are those of a function on requests.
* `Operation.outcome_run`: on such a source the outcome of an operation is what the operation does
  in the monad of outcomes, where there are no logs and no states.
* `Operation.Gives`: what comes of an operation that may read as many pages as it likes. It comes
  of it within some limit, and then within every higher one (`Operation.gives_iff`,
  `Operation.gives_iff_eventually`), and nothing else does (`Operation.Gives.unique`).
-/

namespace OpenPulls

variable {σ α β : Type}

namespace Outcome

/-- Goes on with a result. -/
def andThen (outcome : Outcome α) (next : α → Outcome β) : Outcome β :=
  match outcome with
  | .returned a => next a
  | .failed f => .failed f
  | .unfinished => .unfinished

instance : Monad Outcome where
  pure := returned
  bind := andThen

instance : LawfulMonad Outcome :=
  LawfulMonad.mk' Outcome (fun x => by cases x <;> rfl) (fun _ _ => rfl)
    (fun x _ _ => by cases x <;> rfl)

@[simp] theorem returned_bind (a : α) (next : α → Outcome β) : returned a >>= next = next a := rfl

@[simp] theorem failed_bind (f : Failure) (next : α → Outcome β) :
    (failed f : Outcome α) >>= next = failed f := rfl

@[simp] theorem unfinished_bind (next : α → Outcome β) :
    (unfinished : Outcome α) >>= next = unfinished := rfl

@[simp] theorem map_returned (f : α → β) (a : α) : f <$> returned a = returned (f a) := rfl

@[simp] theorem map_failed (f : α → β) (e : Failure) : f <$> (failed e : Outcome α) = failed e :=
  rfl

@[simp] theorem map_unfinished (f : α → β) : f <$> (unfinished : Outcome α) = unfinished := rfl

/-- The result, or a default if there is none. -/
def getD (outcome : Outcome α) (default : α) : α :=
  match outcome with
  | .returned a => a
  | .failed _ | .unfinished => default

/-- The outcome that has a result, or fails. -/
def ofExcept : Except Failure α → Outcome α
  | .ok a => .returned a
  | .error f => .failed f

theorem returned_eq_ofExcept {a : α} {e : Except Failure α} :
    returned a = ofExcept e ↔ e = .ok a := by
  cases e <;> simp [ofExcept, eq_comm]

theorem failed_eq_ofExcept {f : Failure} {e : Except Failure α} :
    failed f = ofExcept e ↔ e = .error f := by
  cases e <;> simp [ofExcept, eq_comm]

theorem ofExcept_ne_unfinished (e : Except Failure α) : ofExcept e ≠ .unfinished := by
  cases e <;> nofun

theorem exists_ofExcept {outcome : Outcome α} (h : outcome ≠ .unfinished) :
    ∃ e, outcome = ofExcept e := by
  cases outcome with
  | returned a => exact ⟨.ok a, rfl⟩
  | failed f => exact ⟨.error f, rfl⟩
  | unfinished => exact absurd rfl h

end Outcome

/-- An answer to every page request. -/
abbrev Answers := (r : PageRequest) → Except Failure (Page r.Item)

/-- The pages of a resource by cursor. -/
def Answers.pages (answers : Answers) (r : Resource) (cursor : Option UInt64) :
    Except Failure (Page r.Item) :=
  answers ⟨r, cursor⟩

/-- The source that gives prepared answers. -/
def Answers.source (answers : Answers) : Source Unit := fun _ r => (answers r, ())

/-- Reads pages from prepared answers. -/
def Answers.reader (answers : Answers) : PageReader Outcome where
  page r := .ofExcept (answers r)
  giveUp := .unfinished

/-- The answers of the source depend on the request alone. -/
def Source.AnswersBy (source : Source σ) (answers : Answers) : Prop :=
  ∀ state r, (source state r).1 = answers r

theorem Answers.source_answersBy (answers : Answers) : answers.source.AnswersBy answers :=
  fun _ _ => rfl

/-- A log on such a source holds the answers of the function. -/
theorem Replays.answer_eq {source : Source σ} {answers : Answers} (h : source.AnswersBy answers)
    {state last : σ} {log : List Exchange} (hr : Replays source state log last) :
    ∀ x ∈ log, x.answer = answers x.request := by
  induction hr with
  | nil => exact List.forall_mem_nil _
  | cons _ ih => exact List.forall_mem_cons.mpr ⟨h _ _, ih⟩

theorem uniform_outcome {source : Source σ} {answers : Answers} (h : source.AnswersBy answers) :
    Uniform (Session.reader source) answers.reader fun _ t outcome =>
      ∀ state, (t.run state).outcome = outcome where
  result _ _ := rfl
  sequence {_ _ t outcome next next'} ht hnext state := by
    rw [← ht state]
    cases ho : (t.run state).outcome with
    | returned a => rw [Session.run_bind_returned ho, Outcome.returned_bind]; exact hnext a _
    | failed f => rw [Session.run_bind_failed ho, Outcome.failed_bind]
    | unfinished => rw [Session.run_bind_unfinished ho, Outcome.unfinished_bind]
  page r state := by
    show _ = Outcome.ofExcept (answers r)
    rw [← h state r]
    cases ha : (source state r).1 with
    | ok page => exact congrArg Run.outcome (Session.run_ask_ok ha)
    | error f => exact congrArg Run.outcome (Session.run_ask_error ha)
  giveUp _ _ := rfl

/-- **Without a memory there is only the outcome.** -/
theorem Operation.outcome_run {source : Source σ} {answers : Answers}
    (h : source.AnswersBy answers) (o : Operation) (limit : Nat) (s : Selection) (state : σ) :
    (o.run source limit s state).outcome = o.perform answers.reader limit s :=
  (uniform_outcome h).perform (.inl rfl) s o state

/-- What comes of an operation if it may read as many pages as it likes. -/
def Operation.Gives (o : Operation) (source : Source σ) (s : Selection) (state : σ)
    (e : Except Failure o.Result) : Prop :=
  ∃ run, o.Ends source s state run ∧ run.outcome = .ofExcept e

theorem Operation.Gives.unique {o : Operation} {source : Source σ} {s : Selection} {state : σ}
    {e e' : Except Failure o.Result} (h : o.Gives source s state e)
    (h' : o.Gives source s state e') : e = e' := by
  obtain ⟨run, hrun, he⟩ := h
  obtain ⟨run', hrun', he'⟩ := h'
  rw [← hrun.unique hrun', he] at he'
  cases e with
  | ok a => exact (Outcome.returned_eq_ofExcept.mp he').symm
  | error f => exact (Outcome.failed_eq_ofExcept.mp he').symm

theorem Operation.gives_iff {source : Source σ} {answers : Answers}
    (h : source.AnswersBy answers) {o : Operation} {s : Selection} {state : σ}
    {e : Except Failure o.Result} :
    o.Gives source s state e ↔ ∃ limit, o.perform answers.reader limit s = .ofExcept e := by
  constructor
  · rintro ⟨_, ⟨-, limit, rfl⟩, he⟩
    exact ⟨limit, by rw [← o.outcome_run h limit s state, he]⟩
  · rintro ⟨limit, he⟩
    rw [← o.outcome_run h limit s state] at he
    exact ⟨_, ⟨by rw [he]; exact Outcome.ofExcept_ne_unfinished e, limit, rfl⟩, he⟩

/-- What comes of an operation within a limit comes of it within a higher one. -/
theorem Operation.perform_mono {answers : Answers} {o : Operation} {limit limit' : Nat}
    {s : Selection} {e : Except Failure o.Result} (hle : limit ≤ limit')
    (h : o.perform answers.reader limit s = .ofExcept e) :
    o.perform answers.reader limit' s = .ofExcept e := by
  have hs := answers.source_answersBy
  rw [← o.outcome_run hs limit s ()] at h
  rw [← o.outcome_run hs limit' s (),
    run_mono hle (by rw [h]; exact Outcome.ofExcept_ne_unfinished e), h]

theorem Operation.gives_iff_eventually {source : Source σ} {answers : Answers}
    (h : source.AnswersBy answers) {o : Operation} {s : Selection} {state : σ}
    {e : Except Failure o.Result} :
    o.Gives source s state e ↔
      ∀ᶠ limit in Filter.atTop, o.perform answers.reader limit s = .ofExcept e := by
  rw [gives_iff h, Filter.eventually_atTop]
  constructor
  · rintro ⟨limit, he⟩
    exact ⟨limit, fun limit' hle => perform_mono hle he⟩
  · rintro ⟨limit, he⟩
    exact ⟨limit, he limit le_rfl⟩

end OpenPulls
