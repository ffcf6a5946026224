import OpenPulls.Listing.Run

/-!
# Sessions

What holds of every operation because of how sessions are put together.

* `Respects`: a relation between two monads that respects results, sequences, page reads and walks.
  It relates whatever an operation does in one of them to what it does in the other
  (`Respects.perform`), so a property of sessions need only be checked on their building blocks.
* `Uniform`: such a relation that also respects giving up, and hence walks (`Uniform.respects`).
* `Replays`: a log holds what the source answered, request after request
  (`Operation.replays_run`).
* `Operation.Ends`: how an operation ends when nothing limits the number of pages. A run that
  ends is the same under every higher limit (`Operation.run_mono`), so there is only one such
  ending (`Operation.Ends.unique`).
-/

namespace OpenPulls

open Listing

variable {σ α β : Type}

/-! ## Results -/

/-- The result, if there is one. -/
def Outcome.result? : Outcome α → Option α
  | .returned a => some a
  | .failed _ | .unfinished => none

theorem Outcome.result?_eq_some_iff {o : Outcome α} {a : α} :
    o.result? = some a ↔ o = .returned a := by
  cases o <;> simp [Outcome.result?]

/-- What is made of settings that are right, in a form that can be evaluated. -/
theorem exists_returned {ε : Type} {x : Except ε α} {outcome : α → Outcome β} {b : β}
    (h : (x.toOption.bind fun a => (outcome a).result?) = some b) :
    ∃ a, x = .ok a ∧ outcome a = .returned b := by
  obtain ⟨a, hx, hb⟩ := Option.bind_eq_some_iff.mp h
  refine ⟨a, ?_, Outcome.result?_eq_some_iff.mp hb⟩
  cases x with
  | error e => cases hx
  | ok a' =>
    cases hx
    rfl

/-! ## Running a sequence -/

namespace Session

theorem run_ask_ok {source : Source σ} {r : PageRequest} {state : σ} {page : Page r.Item}
    (h : (source state r).1 = .ok page) :
    (ask source r).run state = ⟨.returned page, [⟨r, .ok page⟩], (source state r).2⟩ := by
  simp only [run, ask, h]

theorem run_ask_error {source : Source σ} {r : PageRequest} {state : σ} {f : Failure}
    (h : (source state r).1 = .error f) :
    (ask source r).run state = ⟨.failed f, [⟨r, .error f⟩], (source state r).2⟩ := by
  simp only [run, ask, h]

theorem run_bind_returned {t : Session σ α} {state : σ} {a : α}
    (h : (t.run state).outcome = .returned a) (next : α → Session σ β) :
    (t >>= next).run state =
      { (next a).run (t.run state).state with
        log := (t.run state).log ++ ((next a).run (t.run state).state).log } := by
  show andThen t next state = _
  simp only [run] at h ⊢
  simp only [andThen, h]

theorem run_bind_failed {t : Session σ α} {state : σ} {f : Failure}
    (h : (t.run state).outcome = .failed f) (next : α → Session σ β) :
    (t >>= next).run state = ⟨.failed f, (t.run state).log, (t.run state).state⟩ := by
  show andThen t next state = _
  simp only [run] at h ⊢
  simp only [andThen, h]

theorem run_bind_unfinished {t : Session σ α} {state : σ}
    (h : (t.run state).outcome = .unfinished) (next : α → Session σ β) :
    (t >>= next).run state = ⟨.unfinished, (t.run state).log, (t.run state).state⟩ := by
  show andThen t next state = _
  simp only [run] at h ⊢
  simp only [andThen, h]

theorem run_ask_bind_ok {source : Source σ} {r : PageRequest} {state : σ} {page : Page r.Item}
    (h : (source state r).1 = .ok page) (next : Page r.Item → Session σ β) :
    (ask source r >>= next).run state =
      { (next page).run (source state r).2 with
        log := ⟨r, .ok page⟩ :: ((next page).run (source state r).2).log } := by
  have ho : ((ask source r).run state).outcome = .returned page := by rw [run_ask_ok h]
  rw [run_bind_returned ho, run_ask_ok h]
  rfl

theorem run_ask_bind_error {source : Source σ} {r : PageRequest} {state : σ} {f : Failure}
    (h : (source state r).1 = .error f) (next : Page r.Item → Session σ β) :
    (ask source r >>= next).run state = ⟨.failed f, [⟨r, .error f⟩], (source state r).2⟩ := by
  have ho : ((ask source r).run state).outcome = .failed f := by rw [run_ask_error h]
  rw [run_bind_failed ho, run_ask_error h]

/-- A result that is only put in another form needs no further requests. -/
theorem run_bind_pure (t : Session σ α) (f : α → β) (state : σ) :
    ((t >>= fun a => pure (f a)).run state).log = (t.run state).log ∧
      (((t >>= fun a => pure (f a)).run state).outcome = .unfinished ↔
        (t.run state).outcome = .unfinished) := by
  cases h : (t.run state).outcome with
  | returned a =>
    rw [run_bind_returned h]
    exact ⟨List.append_nil _, iff_of_false nofun nofun⟩
  | failed f =>
    rw [run_bind_failed h]
    exact ⟨rfl, iff_of_false nofun nofun⟩
  | unfinished =>
    rw [run_bind_unfinished h]
    exact ⟨rfl, iff_of_true rfl rfl⟩

theorem forall_log_bind {P : Exchange → Prop} {t : Session σ α} {next : α → Session σ β}
    (ht : ∀ state, ∀ x ∈ (t.run state).log, P x)
    (hnext : ∀ a state, ∀ x ∈ ((next a).run state).log, P x) (state : σ) :
    ∀ x ∈ ((t >>= next).run state).log, P x := by
  cases h : (t.run state).outcome with
  | returned a =>
    rw [run_bind_returned h]
    exact List.forall_mem_append.mpr ⟨ht state, hnext a _⟩
  | failed f =>
    rw [run_bind_failed h]
    exact ht state
  | unfinished =>
    rw [run_bind_unfinished h]
    exact ht state

end Session

/-! ## Uniformity -/

section Relations

variable {m n : Type → Type} [Monad m] [Monad n]

/-- A relation between the computations of two monads that respects results and sequences. -/
structure Sequential (R : (α : Type) → m α → n α → Prop) : Prop where
  result {α : Type} (a : α) : R α (pure a) (pure a)
  sequence {α β : Type} {x : m α} {y : n α} {f : α → m β} {g : α → n β} :
    R α x y → (∀ a, R β (f a) (g a)) → R β (x >>= f) (y >>= g)

/-- A relation between the computations of two monads that respects how computations are put
together from results, sequences, page reads and giving up. -/
structure Uniform (reader : PageReader m) (reader' : PageReader n)
    (R : (α : Type) → m α → n α → Prop) : Prop extends Sequential R where
  page (r : PageRequest) : R (Page r.Item) (reader.page r) (reader'.page r)
  giveUp (α : Type) : R α reader.giveUp reader'.giveUp

/-- A relation between the computations of two monads that respects how operations are put together
from results, sequences, page reads and walks, with these limits. -/
structure Respects (reader : PageReader m) (reader' : PageReader n)
    (R : (α : Type) → m α → n α → Prop) (limit limit' : Nat) : Prop extends Sequential R where
  page (r : PageRequest) : R (Page r.Item) (reader.page r) (reader'.page r)
  walk {β : Type} (r : Resource) {visit : r.Item → m (List β)} {visit' : r.Item → n (List β)} :
    (∀ a, R _ (visit a) (visit' a)) → ∀ start,
      R _ (Listing.walk reader r visit limit start) (Listing.walk reader' r visit' limit' start)

variable {reader : PageReader m} {reader' : PageReader n} {R : (α : Type) → m α → n α → Prop}

theorem Sequential.gather (h : Sequential R) {visit : α → m (List β)} {visit' : α → n (List β)}
    (hv : ∀ a, R _ (visit a) (visit' a)) :
    ∀ as, R _ (Listing.gather visit as) (Listing.gather visit' as)
  | [] => h.result []
  | a :: rest =>
    h.sequence (hv a) fun here =>
      h.sequence (h.gather hv rest) fun later => h.result (here ++ later)

namespace Respects

variable {limit limit' : Nat}

theorem statuses (h : Respects reader reader' R limit limit') (commit : String) :
    R _ (Listing.statuses reader limit commit) (Listing.statuses reader' limit' commit) :=
  h.walk (.buildStatuses commit) (fun s => h.result [s]) none

theorem isGreen (h : Respects reader reader' R limit limit') (policy : Policy) (commit : String) :
    R _ (Listing.isGreen reader limit policy commit)
      (Listing.isGreen reader' limit' policy commit) :=
  h.sequence (h.statuses commit) fun _ => h.result _

theorem history (h : Respects reader reader' R limit limit') (repository : Repository)
    (c : Candidate) :
    R _ (Listing.history reader limit repository c)
      (Listing.history reader' limit' repository c) :=
  h.walk (.commits repository c.number) (fun k => h.result [Commit.markTip c k]) none

theorem firstGreen (h : Respects reader reader' R limit limit') (policy : Policy)
    (commits : List Commit) :
    R _ (Listing.firstGreen reader limit policy commits)
      (Listing.firstGreen reader' limit' policy commits) := by
  induction commits with
  | nil => exact h.result none
  | cons k rest ih =>
    rw [Listing.firstGreen, Listing.firstGreen]
    split
    · exact ih
    · refine h.sequence (h.isGreen policy k.id) fun green => ?_
      split
      · exact h.result _
      · exact ih

theorem resolve (h : Respects reader reader' R limit limit') (s : Selection) (c : Candidate) :
    R _ (Listing.resolve reader limit s c) (Listing.resolve reader' limit' s c) := by
  rw [Listing.resolve, Listing.resolve]
  split
  · exact h.result _
  split
  · exact h.result _
  refine h.sequence (h.isGreen s.policy c.head) fun green => ?_
  split
  · exact h.result _
  split
  · exact h.result _
  refine h.sequence (h.history s.repository c) fun commits => ?_
  refine h.sequence (h.firstGreen s.policy commits) fun found => ?_
  cases found <;> exact h.result _

theorem entries (h : Respects reader reader' R limit limit') (s : Selection) (c : Candidate) :
    R _ (Listing.entries reader limit s c) (Listing.entries reader' limit' s c) :=
  h.sequence (h.resolve s c) fun _ => h.result _

theorem list (h : Respects reader reader' R limit limit') (s : Selection) :
    R _ (Listing.list reader limit s) (Listing.list reader' limit' s) :=
  h.walk (.pullRequests s.repository) (fun c => h.entries s c) none

theorem perform (h : Respects reader reader' R limit limit') (s : Selection) (o : Operation) :
    R _ (o.perform reader limit s) (o.perform reader' limit' s) := by
  cases o with
  | list => exact h.list s
  | resolve c => exact h.resolve s c
  | isGreen commit => exact h.isGreen s.policy commit
  | statuses commit => exact h.statuses commit
  | history c => exact h.history s.repository c
  | page r => exact h.page r

end Respects

namespace Uniform

/-- The limits for two computations: the same, or a higher one for the second if giving up is
related to everything. -/
def Limits (reader : PageReader m) (R : (α : Type) → m α → n α → Prop) (limit limit' : Nat) :
    Prop :=
  limit = limit' ∨ limit ≤ limit' ∧ ∀ (α : Type) (y : n α), R α reader.giveUp y

variable {limit limit' : Nat}

theorem walk (h : Uniform reader reader' R) (r : Resource) {visit : r.Item → m (List β)}
    {visit' : r.Item → n (List β)} (hv : ∀ a, R _ (visit a) (visit' a))
    (hl : Limits reader R limit limit') (start : Option UInt64) :
    R _ (Listing.walk reader r visit limit start) (Listing.walk reader' r visit' limit' start) := by
  induction limit generalizing limit' start with
  | zero =>
    -- The first walk gives up, and the second does so too unless its limit is higher.
    rcases hl with rfl | ⟨-, hlow⟩
    · exact h.giveUp _
    · exact hlow _ _
  | succ limit ih =>
    have hpos : limit + 1 ≤ limit' := hl.elim Nat.le_of_eq And.left
    obtain ⟨limit', rfl⟩ := Nat.exists_eq_add_one.mpr (Nat.zero_lt_of_lt hpos)
    have hl' : Limits reader R limit limit' :=
      hl.imp (by omega) fun ⟨hle, hlow⟩ => ⟨by omega, hlow⟩
    refine h.sequence (h.page _) fun page => h.sequence (h.gather hv _) fun here => ?_
    cases page.next with
    | none => exact h.result here
    | some next => exact h.sequence (ih hl' _) fun later => h.result (here ++ later)

theorem respects (h : Uniform reader reader' R) (hl : Limits reader R limit limit') :
    Respects reader reader' R limit limit' where
  toSequential := h.toSequential
  page := h.page
  walk r _ _ hv start := h.walk r hv hl start

/-- **What an operation does in two monads is related** by every uniform relation. -/
theorem perform (h : Uniform reader reader' R) (hl : Limits reader R limit limit')
    (s : Selection) (o : Operation) :
    R _ (o.perform reader limit s) (o.perform reader' limit' s) :=
  (h.respects hl).perform s o

end Uniform

end Relations

/-! ## Logs -/

/-- The source, asked the requests of a log one after another, gives the answers of the log, and
gets from the first state to the last. -/
inductive Replays (source : Source σ) : σ → List Exchange → σ → Prop
  | nil (state : σ) : Replays source state [] state
  | cons {state last : σ} {r : PageRequest} {log : List Exchange} :
      Replays source (source state r).2 log last →
      Replays source state (⟨r, (source state r).1⟩ :: log) last

theorem Replays.append {source : Source σ} {first middle last : σ} {log log' : List Exchange}
    (h : Replays source first log middle) (h' : Replays source middle log' last) :
    Replays source first (log ++ log') last := by
  induction h with
  | nil => exact h'
  | cons _ ih => exact .cons (ih h')

theorem Session.replays_ask (source : Source σ) (r : PageRequest) (state : σ) :
    Replays source state ((ask source r).run state).log ((ask source r).run state).state :=
  .cons (.nil _)

theorem uniform_replays (source : Source σ) :
    Uniform (Session.reader source) (Session.reader source) fun _ t _ =>
      ∀ state, Replays source state (t.run state).log (t.run state).state where
  result _ state := .nil state
  sequence {_ _ t _ next _} ht hnext state := by
    cases h : (t.run state).outcome with
    | returned a => rw [Session.run_bind_returned h]; exact (ht state).append (hnext a _)
    | failed f => rw [Session.run_bind_failed h]; exact ht state
    | unfinished => rw [Session.run_bind_unfinished h]; exact ht state
  page r state := Session.replays_ask source r state
  giveUp _ state := .nil state

/-- **A log holds what the source answered.** -/
theorem Operation.replays_run (o : Operation) (source : Source σ) (limit : Nat) (s : Selection)
    (state : σ) :
    Replays source state (o.run source limit s state).log (o.run source limit s state).state :=
  (uniform_replays source).perform (.inl rfl) s o state

/-! ## Limits -/

theorem uniform_mono (source : Source σ) :
    Uniform (Session.reader source) (Session.reader source) fun _ t t' =>
      ∀ state, (t.run state).outcome ≠ .unfinished → t'.run state = t.run state where
  result _ _ _ := rfl
  sequence {_ _ t t' next next'} ht hnext state hne := by
    cases h : (t.run state).outcome with
    | returned a =>
      rw [Session.run_bind_returned h] at hne ⊢
      have ht' : t'.run state = t.run state := ht state (by simp [h])
      rw [Session.run_bind_returned (by rw [ht', h]), ht', hnext a _ hne]
    | failed f =>
      have ht' : t'.run state = t.run state := ht state (by simp [h])
      rw [Session.run_bind_failed h, Session.run_bind_failed (by rw [ht', h]), ht']
    | unfinished =>
      rw [Session.run_bind_unfinished h] at hne
      exact absurd rfl hne
  page _ _ _ := rfl
  giveUp _ _ _ := rfl

/-- **A run that ends is the same under a higher limit.** -/
theorem Operation.run_mono {o : Operation} {source : Source σ} {limit limit' : Nat}
    {s : Selection} {state : σ} (hle : limit ≤ limit')
    (h : (o.run source limit s state).outcome ≠ .unfinished) :
    o.run source limit' s state = o.run source limit s state :=
  (uniform_mono source).perform (.inr ⟨hle, fun _ _ _ hne => absurd rfl hne⟩) s o state h

/-- The operation ends with this run if it may read as many pages as it likes. -/
def Operation.Ends (o : Operation) (source : Source σ) (s : Selection) (state : σ)
    (run : Run σ o.Result) : Prop :=
  run.outcome ≠ .unfinished ∧ ∃ limit, o.run source limit s state = run

theorem Operation.Ends.unique {o : Operation} {source : Source σ} {s : Selection} {state : σ}
    {run run' : Run σ o.Result} (h : o.Ends source s state run)
    (h' : o.Ends source s state run') : run = run' := by
  obtain ⟨hne, limit, rfl⟩ := h
  obtain ⟨hne', limit', rfl⟩ := h'
  rcases Nat.le_total limit limit' with hle | hle
  · exact (run_mono hle hne).symm
  · exact run_mono hle hne'

theorem Operation.Ends.replays {o : Operation} {source : Source σ} {s : Selection} {state : σ}
    {run : Run σ o.Result} (h : o.Ends source s state run) :
    Replays source state run.log run.state := by
  obtain ⟨-, limit, rfl⟩ := h
  exact o.replays_run source limit s state

end OpenPulls
