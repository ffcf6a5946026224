import OpenPulls.Proofs.FailFast

/-!
# Sources that stop answering

Nothing but the answers of the source keeps the loops going. A source that has only so many answers
to give makes every operation end, one after another, and each operation asks at most once in vain.

* `Source.AnswersAtMost`: the answers that a source has left in a state, whatever it is asked.
* `RunsInTurn`: operations that are performed one after another on the same source.
* `operations_end_within`: they all end, and make at most as many requests as there are answers and
  operations.

An operation that gives up has read as many pages as its limit allows (`Session.Patient`), and all
of them were answered. With a limit above the number of answers it cannot give up, so it ends.
-/

namespace OpenPulls

open Listing

variable {σ α β : Type}

/-! ## Answers that are left -/

/-- The number of requests of a log that were answered. -/
def answeredIn (log : List Exchange) : Nat := log.countP (·.answer.isOk)

theorem answeredIn_append (log log' : List Exchange) :
    answeredIn (log ++ log') = answeredIn log + answeredIn log' := List.countP_append

theorem answeredIn_eq_length {log : List Exchange} (h : ∀ x ∈ log, x.Answered) :
    answeredIn log = log.length := by
  refine List.countP_eq_length.mpr fun x hx => ?_
  obtain ⟨page, hpage⟩ := h x hx
  rw [hpage]
  rfl

/-- At most one request of an operation is not answered. -/
theorem FailFast.length_le {outcome : Outcome α} {log : List Exchange}
    (h : FailFast outcome log) : log.length ≤ answeredIn log + 1 := by
  cases h with
  | returned hl =>
    rw [answeredIn_eq_length hl]
    exact Nat.le_succ _
  | unfinished hl =>
    rw [answeredIn_eq_length hl]
    exact Nat.le_succ _
  | failed hl =>
    rw [answeredIn_append, answeredIn_eq_length hl, List.length_append, List.length_singleton]
    omega

/-- From a state on, the source answers at most `n` requests, whatever it is asked. -/
def Source.AnswersAtMost (source : Source σ) (state : σ) (n : Nat) : Prop :=
  ∀ log last, Replays source state log last → answeredIn log ≤ n

/-- No more answers are left after some requests. -/
theorem Source.AnswersAtMost.of_replays {source : Source σ} {state last : σ} {n : Nat}
    {log : List Exchange} (h : source.AnswersAtMost state n) (hr : Replays source state log last) :
    source.AnswersAtMost last n := by
  intro log' last' hr'
  have hall := h _ _ (hr.append hr')
  rw [answeredIn_append] at hall
  omega

/-! ## Giving up -/

namespace Session

/-- The session does not give up before it has asked for as many pages. -/
def Patient (limit : Nat) (t : Session σ α) : Prop :=
  ∀ state, (t.run state).outcome = .unfinished → limit ≤ (t.run state).log.length

theorem Patient.mono {t : Session σ α} {limit limit' : Nat} (h : t.Patient limit)
    (hle : limit' ≤ limit) : t.Patient limit' :=
  fun state hu => Nat.le_trans hle (h state hu)

theorem patient_pure (limit : Nat) (a : α) : (pure a : Session σ α).Patient limit :=
  fun _ => nofun

theorem Patient.bind {t : Session σ α} {next : α → Session σ β} {limit : Nat}
    (ht : t.Patient limit) (hnext : ∀ a, (next a).Patient limit) : (t >>= next).Patient limit := by
  intro state hu
  cases h : (t.run state).outcome with
  | returned a =>
    rw [run_bind_returned h] at hu ⊢
    rw [List.length_append]
    exact Nat.le_add_left_of_le (hnext a _ hu)
  | failed f =>
    rw [run_bind_failed h] at hu
    cases hu
  | unfinished =>
    rw [run_bind_unfinished h]
    exact ht state h

theorem patient_ask (source : Source σ) (r : PageRequest) (limit : Nat) :
    (ask source r).Patient limit := by
  intro state hu
  cases ha : (source state r).1 with
  | ok page =>
    rw [run_ask_ok ha] at hu
    cases hu
  | error f =>
    rw [run_ask_error ha] at hu
    cases hu

/-- What comes after a page has a page less to ask for. -/
theorem patient_ask_bind {source : Source σ} {r : PageRequest} {limit : Nat}
    {next : Page r.Item → Session σ β} (h : ∀ page, (next page).Patient limit) :
    (ask source r >>= next).Patient (limit + 1) := by
  intro state hu
  cases ha : (source state r).1 with
  | ok page =>
    rw [run_ask_bind_ok ha] at hu ⊢
    exact Nat.succ_le_succ (h page _ hu)
  | error f =>
    rw [run_ask_bind_error ha] at hu
    cases hu

variable {limit : Nat}

theorem patient_gather {visit : α → Session σ (List β)} (hv : ∀ a, (visit a).Patient limit)
    (as : List α) : (gather visit as).Patient limit := by
  induction as with
  | nil => exact patient_pure limit []
  | cons a as ih => exact (hv a).bind fun here => ih.bind fun later => patient_pure limit _

theorem patient_walk (source : Source σ) (r : Resource) {visit : r.Item → Session σ (List β)}
    (hv : ∀ a, (visit a).Patient limit) (start : Option UInt64) :
    (walk (reader source) r visit limit start).Patient limit := by
  induction limit generalizing start with
  | zero => exact fun _ _ => Nat.zero_le _
  | succ limit ih =>
    have hvisit (a : r.Item) : (visit a).Patient limit := (hv a).mono (Nat.le_succ limit)
    refine patient_ask_bind fun page => (patient_gather hvisit page.items).bind fun here => ?_
    cases page.next with
    | none => exact patient_pure limit _
    | some next => exact (ih hvisit _).bind fun later => patient_pure limit _

theorem respects_patient (source : Source σ) (limit : Nat) :
    Respects (reader source) (reader source) (fun _ t _ => t.Patient limit) limit limit where
  result a := patient_pure limit a
  sequence := Patient.bind
  page r := patient_ask source r limit
  walk r _ _ hv start := patient_walk source r hv start

end Session

/-- **Giving up takes as many pages as the limit allows.** -/
theorem Operation.limit_le_of_unfinished {o : Operation} {source : Source σ} {limit : Nat}
    {s : Selection} {state : σ} (h : (o.run source limit s state).outcome = .unfinished) :
    limit ≤ (o.run source limit s state).log.length :=
  (Session.respects_patient source limit).perform s o state h

/-! ## Operations in turn -/

section InTurn

variable {source : Source σ} {state last : σ} {n : Nat} {tasks : List (Selection × Operation)}
  {log : List Exchange}

/-- An operation ends if only so many answers are left. -/
theorem Operation.exists_ends (h : source.AnswersAtMost state n) (s : Selection)
    (o : Operation) : ∃ run, o.Ends source s state run := by
  refine ⟨o.run source (n + 1) s state, fun hu => ?_, n + 1, rfl⟩
  have hlong := Operation.limit_le_of_unfinished hu
  have hle := h _ _ (o.replays_run source (n + 1) s state)
  have hfast := o.failFast source (n + 1) s state
  rw [hu] at hfast
  rw [answeredIn_eq_length hfast.answered_of_unfinished] at hle
  omega

/-- Operations are performed one after another, each with its own selection. The source is left to
each of them as the one before left it. The log holds all their requests. -/
inductive RunsInTurn (source : Source σ) :
    σ → List (Selection × Operation) → List Exchange → σ → Prop
  | nil (state : σ) : RunsInTurn source state [] [] state
  | cons {state last : σ} {s : Selection} {o : Operation} {run : Run σ o.Result}
      {tasks : List (Selection × Operation)} {log : List Exchange} :
      o.Ends source s state run → RunsInTurn source run.state tasks log last →
      RunsInTurn source state ((s, o) :: tasks) (run.log ++ log) last

theorem RunsInTurn.replays (h : RunsInTurn source state tasks log last) :
    Replays source state log last := by
  induction h with
  | nil state => exact .nil state
  | cons hends _ ih => exact hends.replays.append ih

/-- Each operation asks at most once in vain. -/
theorem RunsInTurn.length_le (h : RunsInTurn source state tasks log last) :
    log.length ≤ answeredIn log + tasks.length := by
  induction h with
  | nil => exact Nat.zero_le _
  | cons hends _ ih =>
    have hle := hends.failFast.length_le
    rw [List.length_append, answeredIn_append, List.length_cons]
    omega

theorem RunsInTurn.exists_of_answersAtMost (h : source.AnswersAtMost state n)
    (tasks : List (Selection × Operation)) :
    ∃ log last, RunsInTurn source state tasks log last := by
  induction tasks generalizing state with
  | nil => exact ⟨[], state, .nil state⟩
  | cons task tasks ih =>
    obtain ⟨s, o⟩ := task
    obtain ⟨run, hends⟩ := Operation.exists_ends h s o
    obtain ⟨log, last, hrest⟩ := ih (h.of_replays hends.replays)
    exact ⟨_, last, .cons hends hrest⟩

/-- **A source that stops answering stops all operations.** If a source answers at most `n`
requests, whatever it is asked and whatever its answers depend on, then all operations that are
performed on it one after another end, and together they make at most `n` requests and one more for
each operation. -/
theorem operations_end_within (h : source.AnswersAtMost state n)
    (tasks : List (Selection × Operation)) :
    (∃ log last, RunsInTurn source state tasks log last) ∧
      ∀ log last, RunsInTurn source state tasks log last → log.length ≤ n + tasks.length := by
  refine ⟨RunsInTurn.exists_of_answersAtMost h tasks, fun log last hrun => ?_⟩
  have hlength := hrun.length_le
  have hanswered := h log last hrun.replays
  omega

end InTurn

/-- A server on which all loops but those over builds would go on forever, if it did not answer only
as many requests as its state says. -/
def rationed : Source Nat
  | 0, r => (.error ⟨r.resource, .other "no more answers"⟩, 0)
  | n + 1, ⟨.pullRequests _, _⟩ => (.ok ⟨[⟨1, "b", "refs/heads/b", "h"⟩], some 0⟩, n)
  | n + 1, ⟨.buildStatuses _, _⟩ => (.ok ⟨[⟨"u", .failed⟩], none⟩, n)
  | n + 1, ⟨.commits _ _, _⟩ => (.ok ⟨[⟨"k", false⟩], some 0⟩, n)

theorem rationed_answersAtMost (n : Nat) : rationed.AnswersAtMost n n := by
  intro log last hr
  induction hr with
  | nil => exact Nat.zero_le _
  | @cons state _ r log _ ih =>
    obtain ⟨resource, start⟩ := r
    show answeredIn ([_] ++ log) ≤ state
    rw [answeredIn_append]
    cases state with
    | zero => exact Nat.le_trans (Nat.le_of_eq (Nat.zero_add _)) ih
    | succ n =>
      -- Every page takes one of the answers that are left.
      have hleft : (rationed (n + 1) ⟨resource, start⟩).2 = n := by cases resource <;> rfl
      have hone : answeredIn [⟨⟨resource, start⟩, (rationed (n + 1) ⟨resource, start⟩).1⟩] = 1 := by
        cases resource <;> rfl
      rw [hleft] at ih
      omega

/-- After a listing that runs out of answers, every other operation asks once. -/
theorem operations_end_within_rationed :
    let s : Selection := ⟨⟨"P", "R"⟩, none, .allGreen, true⟩
    let tasks : List (Selection × Operation) :=
      [(s, .list), (s, .statuses "h"), (s, .history ⟨1, "b", "refs/heads/b", "h"⟩)]
    rationed.AnswersAtMost 5 5 ∧
      (∃ log last, RunsInTurn rationed 5 tasks log last ∧ log.length ≤ 5 + 3) := by
  intro s tasks
  have hfew := rationed_answersAtMost 5
  obtain ⟨⟨log, last, hrun⟩, hle⟩ := operations_end_within hfew tasks
  exact ⟨hfew, log, last, hrun, hle log last hrun⟩

end OpenPulls
