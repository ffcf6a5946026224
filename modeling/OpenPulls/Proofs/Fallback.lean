import OpenPulls.Proofs.Multiplicity
import OpenPulls.Proofs.Soundness
import OpenPulls.Proofs.Traversal

/-!
# Older commits only add to a listing

A listing may fall back on older commits where a head is not green. On a source without a memory,
if that listing has a result, so has the listing of heads alone. It makes some of the same requests,
and it has the same entries without those for older commits (`list_fallback_adds`).

* `Resolution.withoutFallback`: the decision that is left if older commits do not count. The
  entries of a listing follow from its decisions (`acceptedOf_withoutFallback`).
* `Covers`: the second session has a result whenever the first one has, and makes some of the
  requests of the first. The source answers both alike, although their states may differ by what
  the second one did not ask.

The two listings do the same until a head is found not to be green. There the decision about heads
alone is made, and the other one goes on asking (`covers_resolve`).
-/

namespace OpenPulls

open Listing

variable {σ α β γ δ : Type}

/-! ## Decisions without older commits -/

namespace Resolution

/-- An older commit is taken. -/
def isFallback : Resolution → Bool
  | .fallbackFound _ => true
  | _ => false

/-- The decision if older commits do not count. -/
def withoutFallback : Resolution → Resolution
  | .fallbackFound _ | .fallbackExhausted => .headNotGreen
  | result => result

theorem accepted?_withoutFallback (c : Candidate) (result : Resolution) :
    result.withoutFallback.accepted? c =
      if result.isFallback then none else result.accepted? c := by
  cases result <;> rfl

/-- What is taken without an older commit is the head. -/
theorem eq_head_of_accepted {c : Candidate} {result : Resolution} {id : String}
    (h : result.accepted? c = some id) (hf : result.isFallback = false) : id = c.head := by
  cases result with
  | fallbackFound commit => cases hf
  | noPolicy => exact (Option.some.inj h).symm
  | headGreen => exact (Option.some.inj h).symm
  | _ => cases h

end Resolution

theorem acceptedOf_withoutFallback (result : Candidate → Resolution) (cs : List Candidate) :
    acceptedOf (fun c => (result c).withoutFallback) cs =
      acceptedOf result (cs.filter fun c => !(result c).isFallback) := by
  induction cs with
  | nil => rfl
  | cons c cs ih =>
    simp only [acceptedOf, Resolution.accepted?_withoutFallback] at ih ⊢
    by_cases hc : (result c).isFallback = true <;> simp [List.filterMap_cons, hc, ih]

/-- An older commit that is taken is not the head of the pull request, under either name. -/
theorem Decided.ne_head_of_fallback {s : Selection} {c : Candidate} {log : List Exchange}
    {id : String} (h : Decided s c log (.fallbackFound id)) : id ≠ c.head ∧ id ≠ c.ref := by
  generalize hr : Resolution.fallbackFound id = result at h
  cases h with
  | @fallback _ _ _ _ found _ _ _ _ _ hp =>
    cases found with
    | none => cases hr
    | some commit =>
      cases hr
      obtain ⟨k, -, rfl, htip, -⟩ := hp.found
      simp only [Commit.IsTipOf, not_or] at htip
      exact htip.2
  | _ => cases hr

theorem Operation.ne_head_of_gives {source : Source σ} {s : Selection} {c : Candidate} {state : σ}
    {id : String} (h : (Operation.resolve c).Gives source s state (.ok (.fallbackFound id))) :
    id ≠ c.head ∧ id ≠ c.ref := by
  obtain ⟨_, ⟨-, limit, rfl⟩, ho⟩ := h
  have hf := (Session.obeys_resolve source limit s c).follows state
  rw [Operation.run, Operation.perform] at ho
  rw [ho] at hf
  exact hf.complete.ne_head_of_fallback

/-! ## Sessions that make some of the requests -/

/-- Whenever the first session has a result, the second one has a result that goes with it, and made
some of the requests of the first, in the same order and with the same answers. -/
def Covers (Q : α → β → Prop) (t : Session σ α) (t' : Session σ β) : Prop :=
  ∀ state state' a, (t.run state).outcome = .returned a →
    ∃ b, (t'.run state').outcome = .returned b ∧
      (t'.run state').log.Sublist (t.run state).log ∧ Q a b

namespace Covers

variable {Q : α → β → Prop} {P : γ → δ → Prop}

theorem result {a : α} {b : β} (h : Q a b) :
    Covers Q (pure a : Session σ α) (pure b : Session σ β) := by
  intro state state' a' ha
  cases ha
  exact ⟨b, rfl, List.Sublist.refl _, h⟩

/-- A session without requests has its result at once. -/
theorem of_result {t : Session σ α} {b : β}
    (h : ∀ state a, (t.run state).outcome = .returned a → Q a b) : Covers Q t (pure b) := by
  intro state state' a ha
  exact ⟨b, rfl, List.nil_sublist _, h state a ha⟩

theorem unfinished {t' : Session σ β} : Covers Q (Session.unfinished : Session σ α) t' := by
  intro state state' a ha
  cases ha

theorem bind {t : Session σ α} {t' : Session σ β} {next : α → Session σ γ}
    {next' : β → Session σ δ} (ht : Covers Q t t')
    (hnext : ∀ a b, Q a b → Covers P (next a) (next' b)) :
    Covers P (t >>= next) (t' >>= next') := by
  intro state state' x hx
  cases ho : (t.run state).outcome with
  | returned a =>
    obtain ⟨b, hb, hsub, hab⟩ := ht state state' a ho
    rw [Session.run_bind_returned ho] at hx ⊢
    obtain ⟨y, hy, hsub', hxy⟩ := hnext a b hab _ (t'.run state').state x hx
    rw [Session.run_bind_returned hb]
    exact ⟨y, hy, hsub.append hsub', hxy⟩
  | failed f =>
    rw [Session.run_bind_failed ho] at hx
    cases hx
  | unfinished =>
    rw [Session.run_bind_unfinished ho] at hx
    cases hx

end Covers

/-- If what an operation does is covered within every limit, so is how it ends. -/
theorem Covers.ends {o : Operation} {source : Source σ} {s s' : Selection}
    {Q : o.Result → o.Result → Prop}
    (hc : ∀ limit, Covers Q (o.perform (Session.reader source) limit s)
      (o.perform (Session.reader source) limit s'))
    {state : σ} {run : Run σ o.Result} {a : o.Result} (hrun : o.Ends source s state run)
    (ha : run.outcome = .returned a) :
    ∃ run' b, o.Ends source s' state run' ∧ run'.outcome = .returned b ∧
      run'.log.Sublist run.log ∧ Q a b := by
  obtain ⟨-, limit, rfl⟩ := hrun
  obtain ⟨b, hb, hsub, hab⟩ := hc limit state state a ha
  have hne : (o.run source limit s' state).outcome ≠ .unfinished := by
    intro hu
    cases hb.symm.trans hu
  exact ⟨_, b, ⟨hne, limit, rfl⟩, hb, hsub, hab⟩

/-- A result of two steps comes from a result of the second one. -/
theorem Session.returned_of_bind {t : Session σ α} {next : α → Session σ β} {state : σ} {b : β}
    (h : ((t >>= next).run state).outcome = .returned b) :
    ∃ a state', ((next a).run state').outcome = .returned b := by
  cases ho : (t.run state).outcome with
  | returned a =>
    rw [run_bind_returned ho] at h
    exact ⟨a, _, h⟩
  | failed f =>
    rw [run_bind_failed ho] at h
    cases h
  | unfinished =>
    rw [run_bind_unfinished ho] at h
    cases h

section Stateless

variable {source : Source σ} {answers : Answers}

/-- Without a memory a source answers a page request as before, whatever it was asked or not asked
in between. -/
theorem covers_ask (h : source.AnswersBy answers) (r : PageRequest) :
    Covers (· = ·) (Session.ask source r) (Session.ask source r) := by
  intro state state' page hpage
  have hsame : (source state' r).1 = (source state r).1 := (h state' r).trans (h state r).symm
  cases ha : (source state r).1 with
  | error f =>
    rw [Session.run_ask_error ha] at hpage
    cases hpage
  | ok page' =>
    rw [Session.run_ask_ok ha] at hpage ⊢
    cases hpage
    rw [Session.run_ask_ok (hsame.trans ha)]
    exact ⟨page, rfl, List.Sublist.refl _, rfl⟩

theorem uniform_covers (h : source.AnswersBy answers) :
    Uniform (Session.reader source) (Session.reader source) fun _ => Covers (· = ·) where
  result _ := .result rfl
  sequence ht hnext := ht.bind fun a _ hab => hab ▸ hnext a
  page r := covers_ask h r
  giveUp _ := .unfinished

/-! ## Listings with and without older commits -/

variable (h : source.AnswersBy answers) (limit : Nat) (s : Selection)
include h

/-- The decision about the head alone makes some of the requests of the other decision. -/
theorem covers_resolve (c : Candidate) :
    Covers (fun result result' => result' = result.withoutFallback)
      (resolve (Session.reader source) limit { s with fallback := true } c)
      (resolve (Session.reader source) limit { s with fallback := false } c) := by
  have hadmits (fallback : Bool) : { s with fallback }.admits c.branch = s.admits c.branch := rfl
  unfold resolve
  simp only [hadmits]
  cases s.admits c.branch with
  | false => exact .result rfl
  | true =>
    cases s.policy.isEnabled with
    | false => exact .result rfl
    | true =>
      simp only [Bool.not_true, Bool.false_eq_true, if_false, Bool.not_false, if_true]
      have hsame : Respects _ _ _ limit limit := (uniform_covers h).respects (.inl rfl)
      refine (hsame.isGreen s.policy c.head).bind fun green _ hgreen => ?_
      subst hgreen
      cases green with
      | true => exact .result rfl
      | false =>
        -- One decision is made, and whatever comes of the other one is about an older commit.
        refine .of_result fun state result hresult => ?_
        obtain ⟨commits, _, hresult⟩ := Session.returned_of_bind hresult
        obtain ⟨found, _, hresult⟩ := Session.returned_of_bind hresult
        cases found <;> cases hresult <;> rfl

theorem covers_entries (c : Candidate) :
    Covers (fun _ _ => True)
      (entries (Session.reader source) limit { s with fallback := true } c)
      (entries (Session.reader source) limit { s with fallback := false } c) :=
  (covers_resolve h limit s c).bind fun _ _ _ => .result trivial

omit h in
theorem covers_gather {visit visit' : α → Session σ (List β)}
    (hv : ∀ a, Covers (fun _ _ => True) (visit a) (visit' a)) (as : List α) :
    Covers (fun _ _ => True) (gather visit as) (gather visit' as) := by
  induction as with
  | nil => exact .result trivial
  | cons a as ih => exact (hv a).bind fun _ _ _ => ih.bind fun _ _ _ => .result trivial

theorem covers_walk (r : Resource) {visit visit' : r.Item → Session σ (List β)}
    (hv : ∀ a, Covers (fun _ _ => True) (visit a) (visit' a)) (start : Option UInt64) :
    Covers (fun _ _ => True) (walk (Session.reader source) r visit limit start)
      (walk (Session.reader source) r visit' limit start) := by
  induction limit generalizing start with
  | zero => exact .unfinished
  | succ limit ih =>
    refine (covers_ask h ⟨r, start⟩).bind fun page _ hpage => ?_
    subst hpage
    refine (covers_gather hv page.items).bind fun _ _ _ => ?_
    cases page.next with
    | none => exact .result trivial
    | some next => exact (ih (some next)).bind fun _ _ _ => .result trivial

theorem covers_list :
    Covers (fun _ _ => True)
      (list (Session.reader source) limit { s with fallback := true })
      (list (Session.reader source) limit { s with fallback := false }) := by
  unfold list
  exact covers_walk h limit (.pullRequests s.repository) (fun c => covers_entries h limit s c) none

omit limit s

/-! ## The pull requests of a run -/

omit h in
/-- The pull requests on the pages of a complete log are those that the cursors lead to. -/
theorem Walked.leads {repository : Repository} {s : Selection} {start : Option UInt64}
    {log : List Exchange} {ps : List ResolvedPullRequest}
    (hw : Walked (.pullRequests repository) (DecidedEntries s) start log ps)
    (hlog : ∀ x ∈ log, x.answer = answers x.request) :
    ∃ pages, Leads (answers.pages (.pullRequests repository)) start pages none ∧
      candidatesIn log = itemsOf pages := by
  induction hw with
  | @last start page log here hn hg =>
    have hpage := hlog _ List.mem_cons_self
    refine ⟨[page], .last hpage.symm hn, ?_⟩
    simp [hg.numbers.1, Exchange.candidates]
  | @more start page next log log' here later hn hg _ ih =>
    obtain ⟨hpage, hlog⟩ := List.forall_mem_cons.mp hlog
    obtain ⟨pages, hl, hc⟩ := ih (List.forall_mem_append.mp hlog).2
    refine ⟨page :: pages, .more hpage.symm hn hl, ?_⟩
    simp [hg.numbers.1, hc, Exchange.candidates]

/-- A listing with a result read pages up to a last one, and holds what was decided about the pull
requests on them. -/
theorem list_reads {s : Selection} {state : σ} {run : Run σ (List ResolvedPullRequest)}
    {ps : List ResolvedPullRequest} (hrun : Operation.list.Ends source s state run)
    (hps : run.outcome = .returned ps) :
    ∃ pages result, Leads (answers.pages (.pullRequests s.repository)) none pages none ∧
      candidatesIn run.log = itemsOf pages ∧
      (∀ c ∈ itemsOf pages, (Operation.resolve c).Gives source s state (.ok (result c))) ∧
      ps = acceptedOf result (itemsOf pages) := by
  have hg : Operation.list.Gives source s state (.ok ps) := ⟨run, hrun, hps⟩
  have ht := traversed_of_gives h hg
  obtain ⟨-, limit, rfl⟩ := hrun
  have hlog := (Session.obeys_list source limit s).follows state
  have hr := Operation.replays_run .list source limit s state
  rw [Operation.run, Operation.perform] at hps hr
  rw [hps] at hlog
  obtain ⟨pages, hl, hc⟩ := hlog.complete.leads (Replays.answer_eq h hr)
  generalize he : (.ok ps : Except Failure _) = e at ht
  cases ht with
  | @complete pages' result hl' hd =>
    obtain rfl := hl.unique hl'
    exact ⟨pages, result, hl, hc, hd, Except.ok.inj he⟩
  | _ => cases he

/-- **Falling back on older commits only adds to a listing.** Let the listing with the fallback have
a result. Then the listing without it has a result, and makes some of the same requests. The one
listing holds what was decided about the pull requests that were read, and the other one holds the
same without those pull requests for which an older commit was found. Where none was found, the
listed commit is the head, and where one was found, it is not. -/
theorem list_fallback_adds {s : Selection} {state : σ} {run : Run σ (List ResolvedPullRequest)}
    {ps : List ResolvedPullRequest}
    (hrun : Operation.list.Ends source { s with fallback := true } state run)
    (hps : run.outcome = .returned ps) :
    ∃ (result : Candidate → Resolution) (run' : Run σ (List ResolvedPullRequest)),
      (∀ c ∈ candidatesIn run.log,
        (Operation.resolve c).Gives source { s with fallback := true } state (.ok (result c))) ∧
      ps = acceptedOf result (candidatesIn run.log) ∧
      Operation.list.Ends source { s with fallback := false } state run' ∧
      run'.outcome = .returned
        (acceptedOf result ((candidatesIn run.log).filter fun c => !(result c).isFallback)) ∧
      run'.log.Sublist run.log ∧
      ∀ c ∈ candidatesIn run.log, ∀ id, (result c).accepted? c = some id →
        if (result c).isFallback then id ≠ c.head ∧ id ≠ c.ref else id = c.head := by
  obtain ⟨pages, result, hl, hc, hd, hresult⟩ := list_reads h hrun hps
  obtain ⟨run', ps', hrun', hps', hsub, -⟩ :=
    Covers.ends (fun limit => covers_list h limit s) hrun hps
  -- The heads alone are decided about on the same pages.
  have hd' (c : Candidate) (hmem : c ∈ itemsOf pages) :
      (Operation.resolve c).Gives source { s with fallback := false } state
        (.ok (result c).withoutFallback) := by
    obtain ⟨_, hends, ho⟩ := hd c hmem
    obtain ⟨_, _, hends', ho', -, rfl⟩ :=
      Covers.ends (fun limit => covers_resolve h limit s c) hends ho
    exact ⟨_, hends', ho'⟩
  have heads : Operation.list.Gives source { s with fallback := false } state
      (.ok (acceptedOf (fun c => (result c).withoutFallback) (itemsOf pages))) :=
    gives_of_traversed h (.complete hl hd')
  have hps'' := Except.ok.inj (Operation.Gives.unique ⟨run', hrun', hps'⟩ heads)
  rw [hc]
  refine ⟨result, run', hd, hresult, hrun', ?_, hsub, fun c hmem id hid => ?_⟩
  · rw [hps', hps'', acceptedOf_withoutFallback]
  · cases hf : (result c).isFallback with
    | false => exact Resolution.eq_head_of_accepted hid hf
    | true =>
      cases hr : result c with
      | fallbackFound commit =>
        rw [hr] at hid
        cases hid
        exact Operation.ne_head_of_gives (hr ▸ hd c hmem)
      | _ => simp [hr, Resolution.isFallback] at hf

end Stateless

/-- A server with three pull requests, where the builds of every commit but `red` succeeded. It does
not show the commits of the first pull request, whose head is green. -/
def guarded : Answers
  | ⟨.pullRequests _, _⟩ =>
    .ok ⟨[⟨1, "x", "refs/heads/x", "green"⟩, ⟨2, "y", "refs/heads/y", "red"⟩,
      ⟨3, "z", "refs/heads/z", "red"⟩], none⟩
  | ⟨.commits repository number, _⟩ =>
    if number = 1 then .error ⟨.commits repository number, .status 403⟩
    else .ok ⟨⟨"red", false⟩ :: if number = 2 then [⟨"old", false⟩] else [], none⟩
  | ⟨.buildStatuses commit, _⟩ =>
    .ok ⟨[⟨"u", if commit = "red" then .failed else .successful⟩], none⟩

theorem list_fallback_adds_guarded :
    let s (fallback : Bool) : Selection := ⟨⟨"P", "R"⟩, none, .allGreen, fallback⟩
    let run := Operation.list.run guarded.source 1 (s true) ()
    guarded.source.AnswersBy guarded ∧ Operation.list.Ends guarded.source (s true) () run ∧
      run.outcome = .returned [⟨1, "x", "green"⟩, ⟨2, "y", "old"⟩] ∧
      ∃ run', Operation.list.Ends guarded.source (s false) () run' ∧
        run'.outcome = .returned [⟨1, "x", "green"⟩] ∧ run'.log.Sublist run.log := by
  intro s run
  have h := guarded.source_answersBy
  have hps : run.outcome = .returned [⟨1, "x", "green"⟩, ⟨2, "y", "old"⟩] := rfl
  have hrun : Operation.list.Ends guarded.source (s true) () run := ⟨by simp [hps], 1, rfl⟩
  have hheads : (Operation.list.run guarded.source 1 (s false) ()).outcome =
    .returned [⟨1, "x", "green"⟩] := rfl
  have hends : Operation.list.Ends guarded.source (s false) ()
    (Operation.list.run guarded.source 1 (s false) ()) := ⟨by simp [hheads], 1, rfl⟩
  obtain ⟨_, run', -, -, hrun', -, hsub, -⟩ := list_fallback_adds h (s := s true) hrun hps
  obtain rfl := hends.unique hrun'
  exact ⟨h, hrun, hps, _, hends, hheads, hsub⟩

end OpenPulls
