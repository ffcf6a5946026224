import OpenPulls.Proofs.Protocol

/-!
# What is asked for

An operation sees nothing of a source but the answers to its requests, and asks for nothing but what
it needs.

* `Operation.run_agree`: on two sources that agree on all requests of a run, the run is the same.
* `Decided.request`, `Listed.request`: a decision about a pull request asks for build statuses and
  for the commits of that pull request, and a listing asks besides for the pull requests of its
  repository.
-/

namespace OpenPulls

variable {σ α : Type}

/-! ## Sources that agree -/

/-- Sessions on two sources that agree on the requests with `P` do the same as long as they make no
others. -/
theorem uniform_agree {source source' : Source σ} {P : PageRequest → Prop}
    (h : ∀ state r, P r → source' state r = source state r) :
    Uniform (Session.reader source) (Session.reader source') fun _ t t' =>
      ∀ state, (∀ x ∈ (t.run state).log, P x.request) → t'.run state = t.run state where
  result _ _ _ := rfl
  sequence {_ _ t t' next next'} ht hnext state hP := by
    cases ho : (t.run state).outcome with
    | returned a =>
      rw [Session.run_bind_returned ho] at hP ⊢
      obtain ⟨hfirst, hsecond⟩ := List.forall_mem_append.mp hP
      have ht' : t'.run state = t.run state := ht state hfirst
      rw [Session.run_bind_returned (by rw [ht', ho]), ht', hnext a _ hsecond]
    | failed f =>
      rw [Session.run_bind_failed ho] at hP ⊢
      have ht' : t'.run state = t.run state := ht state hP
      rw [Session.run_bind_failed (by rw [ht', ho]), ht']
    | unfinished =>
      rw [Session.run_bind_unfinished ho] at hP ⊢
      have ht' : t'.run state = t.run state := ht state hP
      rw [Session.run_bind_unfinished (by rw [ht', ho]), ht']
  page r state hP := by
    have hr : P r := hP ⟨r, (source state r).1⟩ List.mem_cons_self
    simp only [Session.reader, Session.run, Session.ask, h state r hr]
  giveUp _ _ _ := rfl

/-- **A run depends only on the answers to its requests.** -/
theorem Operation.run_agree {source source' : Source σ} {o : Operation} {limit : Nat}
    {s : Selection} {state : σ} {P : PageRequest → Prop}
    (h : ∀ state r, P r → source' state r = source state r)
    (hP : ∀ x ∈ (o.run source limit s state).log, P x.request) :
    o.run source' limit s state = o.run source limit s state :=
  (uniform_agree h).perform (.inl rfl) s o state hP

/-! ## The requests of the protocol -/

theorem Chain.request {r : Resource} {start : Option UInt64} {log : List Exchange}
    {items : List r.Item} (h : Chain r start log items) : ∀ x ∈ log, x.request.resource = r := by
  induction h with
  | last _ => exact List.forall_mem_singleton.mpr rfl
  | more _ _ ih => exact List.forall_mem_cons.mpr ⟨rfl, ih⟩

/-- A decision about the pull request may ask for the resource. -/
def Resource.ServesDecision (s : Selection) (c : Candidate) : Resource → Prop
  | .pullRequests _ => False
  | .buildStatuses _ => True
  | .commits repository number => repository = s.repository ∧ number = c.number

/-- A listing may ask for the resource. -/
def Resource.ServesListing (s : Selection) : Resource → Prop
  | .pullRequests repository => repository = s.repository
  | .buildStatuses _ => True
  | .commits repository _ => repository = s.repository

theorem Resource.ServesDecision.servesListing {s : Selection} {c : Candidate} {r : Resource}
    (h : r.ServesDecision s c) : r.ServesListing s := by
  cases r with
  | pullRequests _ => exact h.elim
  | buildStatuses _ => trivial
  | commits _ _ => exact h.1

section Requests

variable {s : Selection} {c : Candidate} {log : List Exchange}

theorem Checked.request {policy : Policy} {commit : String} {green : Bool}
    (h : Checked policy commit log green) :
    ∀ x ∈ log, x.request.resource = .buildStatuses commit := by
  obtain ⟨statuses, hc, -⟩ := h
  exact hc.request

theorem Checked.servesDecision {policy : Policy} {commit : String} {green : Bool}
    (h : Checked policy commit log green) :
    ∀ x ∈ log, x.request.resource.ServesDecision s c := by
  intro x hx
  rw [h.request x hx]
  trivial

theorem Probed.servesDecision {policy : Policy} {commits : List Commit} {found : Option String}
    (h : Probed policy c commits log found) :
    ∀ x ∈ log, x.request.resource.ServesDecision s c := by
  induction h with
  | nil => exact List.forall_mem_nil _
  | tip _ _ ih => exact ih
  | green _ hc => exact hc.servesDecision
  | red _ hc _ ih => exact List.forall_mem_append.mpr ⟨hc.servesDecision, ih⟩

theorem Decided.request {result : Resolution} (h : Decided s c log result) :
    ∀ x ∈ log, x.request.resource.ServesDecision s c := by
  cases h with
  | branchRejected _ => exact List.forall_mem_nil _
  | noPolicy _ _ => exact List.forall_mem_nil _
  | headGreen _ _ hc => exact hc.servesDecision
  | headNotGreen _ _ hc _ => exact hc.servesDecision
  | fallback _ _ hc _ hk hp =>
    refine List.forall_mem_append.mpr ⟨hc.servesDecision,
      List.forall_mem_append.mpr ⟨fun x hx => ?_, hp.servesDecision⟩⟩
    rw [hk.request x hx]
    exact ⟨rfl, rfl⟩

theorem Gathered.forall_mem {β : Type} {Visit : α → List Exchange → List β → Prop}
    {P : Exchange → Prop} {as : List α} {results : List β}
    (h : Gathered Visit as log results)
    (hv : ∀ a log results, Visit a log results → ∀ x ∈ log, P x) : ∀ x ∈ log, P x := by
  induction h with
  | nil => exact List.forall_mem_nil _
  | cons ha _ ih => exact List.forall_mem_append.mpr ⟨hv _ _ _ ha, ih⟩

theorem Walked.forall_mem {β : Type} {r : Resource} {Visit : r.Item → List Exchange → List β → Prop}
    {P : Exchange → Prop} {start : Option UInt64} {results : List β}
    (h : Walked r Visit start log results)
    (hr : ∀ start page, P ⟨⟨r, start⟩, .ok page⟩)
    (hv : ∀ a log results, Visit a log results → ∀ x ∈ log, P x) : ∀ x ∈ log, P x := by
  induction h with
  | last _ hg => exact List.forall_mem_cons.mpr ⟨hr _ _, hg.forall_mem hv⟩
  | more _ hg _ ih =>
    exact List.forall_mem_cons.mpr ⟨hr _ _, List.forall_mem_append.mpr ⟨hg.forall_mem hv, ih⟩⟩

theorem Listed.request {ps : List ResolvedPullRequest} (h : Listed s log ps) :
    ∀ x ∈ log, x.request.resource.ServesListing s := by
  refine Walked.forall_mem h (fun _ _ => rfl) fun c log entries hv x hx => ?_
  obtain ⟨result, hd, -⟩ := hv
  exact (hd.request x hx).servesListing

end Requests

/-- A run asks for nothing that complete logs do not ask for. -/
theorem Follows.forall_request {L : List Exchange → α → Prop} {outcome : Outcome α}
    {log : List Exchange} {P : PageRequest → Prop} (h : Follows L outcome log)
    (hL : ∀ log a, L log a → ∀ x ∈ log, P x.request) : ∀ x ∈ log, P x.request := by
  cases h with
  | returned hl => exact hL _ _ hl
  | failed hl =>
    have hall := List.forall_mem_append.mp (hL _ _ hl)
    refine List.forall_mem_append.mpr ⟨hall.1, List.forall_mem_singleton.mpr ?_⟩
    exact hall.2 ⟨_, .ok _⟩ List.mem_cons_self
  | unfinished hl => exact (List.forall_mem_append.mp (hL _ _ hl)).1

theorem Operation.resolve_request (source : Source σ) (limit : Nat) (s : Selection)
    (c : Candidate) (state : σ) :
    ∀ x ∈ ((Operation.resolve c).run source limit s state).log,
      x.request.resource.ServesDecision s c :=
  ((Session.obeys_resolve source limit s c).follows state).forall_request
    (P := fun r => r.resource.ServesDecision s c) fun _ _ h => h.request

theorem Operation.list_request (source : Source σ) (limit : Nat) (s : Selection) (state : σ) :
    ∀ x ∈ (Operation.list.run source limit s state).log, x.request.resource.ServesListing s :=
  ((Session.obeys_list source limit s).follows state).forall_request
    (P := fun r => r.resource.ServesListing s) fun _ _ h => h.request

end OpenPulls
