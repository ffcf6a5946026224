import OpenPulls.Proofs.Session

/-!
# The protocol of a listing

Which page requests a listing makes, with which answers, and in which order.

**Complete logs.** `Chain` is the log of reading a resource to its end: each request carries the
cursor that the page before named, and the last page names none. `Walked` is the log of reading
the pages of a resource and visiting the items of each page before the next page is requested.
Out of these, `Probed` is the search for a green commit, `Decided` the decision about a pull
request, and `Listed` the whole listing. The relations also say what the log results in.

**Logs of a run.** `Follows L` says how an outcome and a log relate to the complete logs `L`: with a
result the log is one of them, with a failure it is one of them cut at the failed request, and
without an end it is the beginning of one.

Main result: `list_follows_protocol`. A sequence of sessions follows the sequence of their complete
logs as soon as each log of the first part can be completed (`Session.Obeys.bind`). So it is part of
obeying that there is a complete log at all (`Session.Obeys.complete`).
-/

namespace OpenPulls

variable {σ α β : Type}

/-! ## Pages -/

/-- All pages of a resource are read, from the cursor `start` to the page without a successor, and
hold these items. -/
inductive Chain (r : Resource) : Option UInt64 → List Exchange → List r.Item → Prop
  | last {start : Option UInt64} {page : Page r.Item} :
      page.next = none → Chain r start [⟨⟨r, start⟩, .ok page⟩] page.items
  | more {start : Option UInt64} {page : Page r.Item} {next : UInt64} {log : List Exchange}
      {items : List r.Item} :
      page.next = some next → Chain r (some next) log items →
      Chain r start (⟨⟨r, start⟩, .ok page⟩ :: log) (page.items ++ items)

/-- Items are visited in order, and each visit leaves a log with some results. -/
inductive Gathered (Visit : α → List Exchange → List β → Prop) :
    List α → List Exchange → List β → Prop
  | nil : Gathered Visit [] [] []
  | cons {a : α} {rest : List α} {log log' : List Exchange} {here later : List β} :
      Visit a log here → Gathered Visit rest log' later →
      Gathered Visit (a :: rest) (log ++ log') (here ++ later)

theorem Gathered.exists_log {Visit : α → List Exchange → List β → Prop}
    (h : ∀ a, ∃ log results, Visit a log results) (as : List α) :
    ∃ log results, Gathered Visit as log results := by
  induction as with
  | nil => exact ⟨_, _, .nil⟩
  | cons a rest ih =>
    obtain ⟨_, _, ha⟩ := h a
    obtain ⟨_, _, hrest⟩ := ih
    exact ⟨_, _, .cons ha hrest⟩

/-- The pages of a resource are read from a cursor on, and the items of each page are visited
before the next page is requested. -/
inductive Walked (r : Resource) (Visit : r.Item → List Exchange → List β → Prop) :
    Option UInt64 → List Exchange → List β → Prop
  | last {start : Option UInt64} {page : Page r.Item} {log : List Exchange} {here : List β} :
      page.next = none → Gathered Visit page.items log here →
      Walked r Visit start (⟨⟨r, start⟩, .ok page⟩ :: log) here
  | more {start : Option UInt64} {page : Page r.Item} {next : UInt64} {log log' : List Exchange}
      {here later : List β} :
      page.next = some next → Gathered Visit page.items log here →
      Walked r Visit (some next) log' later →
      Walked r Visit start (⟨⟨r, start⟩, .ok page⟩ :: (log ++ log')) (here ++ later)

theorem Walked.exists_log {r : Resource} {Visit : r.Item → List Exchange → List β → Prop}
    (h : ∀ a, ∃ log results, Visit a log results) (start : Option UInt64) :
    ∃ log results, Walked r Visit start log results := by
  obtain ⟨_, _, hg⟩ := Gathered.exists_log h []
  exact ⟨_, _, @Walked.last _ r Visit start ⟨[], none⟩ _ _ rfl hg⟩

section Silent

variable {r : Resource} {f : r.Item → β}

/-- The visit that requests nothing. -/
def Silent (f : α → β) (a : α) (log : List Exchange) (results : List β) : Prop :=
  log = [] ∧ results = [f a]

theorem Gathered.of_silent {f : α → β} {as : List α} {log : List Exchange} {results : List β}
    (h : Gathered (Silent f) as log results) : log = [] ∧ results = as.map f := by
  induction h with
  | nil => exact ⟨rfl, rfl⟩
  | cons ha _ ih =>
    obtain ⟨rfl, rfl⟩ := ha
    obtain ⟨rfl, rfl⟩ := ih
    exact ⟨rfl, rfl⟩

/-- Without requests for the items, a walk reads a chain. -/
theorem Walked.chain {start : Option UInt64} {log : List Exchange} {results : List β}
    (h : Walked r (Silent f) start log results) :
    ∃ items, Chain r start log items ∧ results = items.map f := by
  induction h with
  | last hn hg =>
    obtain ⟨rfl, rfl⟩ := hg.of_silent
    exact ⟨_, .last hn, rfl⟩
  | more hn hg _ ih =>
    obtain ⟨rfl, rfl⟩ := hg.of_silent
    obtain ⟨items, hc, rfl⟩ := ih
    exact ⟨_, .more hn hc, List.map_append.symm⟩

end Silent

/-! ## Decisions -/

/-- All build statuses of a commit are read, and the policy judges them. -/
def Checked (policy : Policy) (commit : String) (log : List Exchange) (green : Bool) : Prop :=
  ∃ statuses, Chain (.buildStatuses commit) none log statuses ∧ policy.isGreen statuses = green

/-- The commit carries a tip mark, or is the head of the pull request under either name. -/
def Commit.IsTipOf (c : Candidate) (k : Commit) : Prop :=
  k.isTip = true ∨ k.id = c.head ∨ k.id = c.ref

theorem Commit.isTip_markTip (c : Candidate) (k : Commit) :
    (k.markTip c).isTip = true ↔ k.IsTipOf c := by
  simp [Commit.markTip, Commit.IsTipOf, or_assoc]

/-- The commits of a pull request other than its tip are checked in order, up to the first green
one. -/
inductive Probed (policy : Policy) (c : Candidate) :
    List Commit → List Exchange → Option String → Prop
  | nil : Probed policy c [] [] none
  | tip {k : Commit} {rest : List Commit} {log : List Exchange} {found : Option String} :
      k.IsTipOf c → Probed policy c rest log found → Probed policy c (k :: rest) log found
  | green {k : Commit} {rest : List Commit} {log : List Exchange} :
      ¬ k.IsTipOf c → Checked policy k.id log true → Probed policy c (k :: rest) log (some k.id)
  | red {k : Commit} {rest : List Commit} {log log' : List Exchange} {found : Option String} :
      ¬ k.IsTipOf c → Checked policy k.id log false → Probed policy c rest log' found →
      Probed policy c (k :: rest) (log ++ log') found

/-- A pull request is decided about: nothing is requested if its branch is not asked for or builds
are not checked; else its head is checked; and only if the head is not green and older commits
count, all commits are read and then probed. -/
inductive Decided (s : Selection) (c : Candidate) : List Exchange → Resolution → Prop
  | branchRejected : s.admits c.branch = false → Decided s c [] .branchRejected
  | noPolicy : s.admits c.branch = true → s.policy.isEnabled = false → Decided s c [] .noPolicy
  | headGreen {log : List Exchange} :
      s.admits c.branch = true → s.policy.isEnabled = true → Checked s.policy c.head log true →
      Decided s c log .headGreen
  | headNotGreen {log : List Exchange} :
      s.admits c.branch = true → s.policy.isEnabled = true → Checked s.policy c.head log false →
      s.fallback = false → Decided s c log .headNotGreen
  | fallback {log log' log'' : List Exchange} {commits : List Commit} {found : Option String} :
      s.admits c.branch = true → s.policy.isEnabled = true → Checked s.policy c.head log false →
      s.fallback = true → Chain (.commits s.repository c.number) none log' commits →
      Probed s.policy c commits log'' found →
      Decided s c (log ++ (log' ++ log'')) (found.elim .fallbackExhausted .fallbackFound)

/-- The entries of the listing for a pull request that is decided about. -/
def DecidedEntries (s : Selection) (c : Candidate) (log : List Exchange)
    (entries : List ResolvedPullRequest) : Prop :=
  ∃ result, Decided s c log result ∧ entries = result.entries c

/-- All pull requests of the repository are read, and those of each page are decided about in order
before the next page is requested. -/
def Listed (s : Selection) : List Exchange → List ResolvedPullRequest → Prop :=
  Walked (.pullRequests s.repository) (DecidedEntries s) none

/-! ## Logs of a run -/

/-- How a run with complete logs `L` stands: with a result, it has a complete log; with a failure,
a complete log up to a request that failed instead; without an end, the beginning of one. -/
inductive Follows (L : List Exchange → α → Prop) : Outcome α → List Exchange → Prop
  | returned {log : List Exchange} {a : α} : L log a → Follows L (.returned a) log
  | failed {before after : List Exchange} {r : PageRequest} {page : Page r.Item} {f : Failure}
      {a : α} :
      L (before ++ ⟨r, .ok page⟩ :: after) a → Follows L (.failed f) (before ++ [⟨r, .error f⟩])
  | unfinished {log after : List Exchange} {a : α} :
      L (log ++ after) a → Follows L .unfinished log

namespace Follows

variable {L : List Exchange → α → Prop} {outcome : Outcome α} {log : List Exchange}

theorem complete {a : α} (h : Follows L (.returned a) log) : L log a := by
  cases h with
  | returned hl => exact hl

theorem mono {L' : List Exchange → α → Prop} {before : List Exchange}
    (h : Follows L outcome log) (hL : ∀ log a, L log a → L' (before ++ log) a) :
    Follows L' outcome (before ++ log) := by
  cases h with
  | returned hl => exact .returned (hL _ _ hl)
  | failed hl =>
    have hl' := hL _ _ hl
    rw [← List.append_assoc] at hl' ⊢
    exact .failed hl'
  | unfinished hl =>
    have hl' := hL _ _ hl
    rw [← List.append_assoc] at hl'
    exact .unfinished hl'

/-- A failed run of a first part is a failed run of the whole if what the first part could have
read can be completed. -/
theorem of_failed {N : List Exchange → β → Prop} {f : Failure} (h : Follows L (.failed f) log)
    (hN : ∀ log a, L log a → ∃ log' b, N (log ++ log') b) : Follows N (.failed f) log := by
  cases h with
  | failed hl =>
    obtain ⟨log', b, hb⟩ := hN _ _ hl
    rw [List.append_assoc, List.cons_append] at hb
    exact .failed hb

theorem of_unfinished {N : List Exchange → β → Prop} (h : Follows L .unfinished log)
    (hN : ∀ log a, L log a → ∃ log' b, N (log ++ log') b) : Follows N .unfinished log := by
  cases h with
  | unfinished hl =>
    obtain ⟨log', b, hb⟩ := hN _ _ hl
    rw [List.append_assoc] at hb
    exact .unfinished hb

end Follows

namespace Session

/-- There are complete logs, and the runs of the session follow them. -/
structure Obeys (t : Session σ α) (L : List Exchange → α → Prop) : Prop where
  complete : ∃ log a, L log a
  follows (state : σ) : Follows L (t.run state).outcome (t.run state).log

theorem obeys_pure {L : List Exchange → α → Prop} {a : α} (h : L [] a) :
    (pure a : Session σ α).Obeys L :=
  ⟨⟨_, _, h⟩, fun _ => .returned h⟩

/-- A result that nothing is requested for completes the log so far. -/
theorem obeys_pure_append {L : List Exchange → α → Prop} {log : List Exchange} {a : α}
    (h : L log a) : (pure a : Session σ α).Obeys fun log' a' => L (log ++ log') a' :=
  obeys_pure (by rwa [List.append_nil])

theorem obeys_unfinished {L : List Exchange → α → Prop} (h : ∃ log a, L log a) :
    (unfinished : Session σ α).Obeys L := by
  obtain ⟨log, a, hl⟩ := h
  exact ⟨⟨log, a, hl⟩, fun _ => @Follows.unfinished _ L [] log a hl⟩

theorem obeys_ask (source : Source σ) (r : PageRequest) :
    (ask source r).Obeys fun log page => log = [⟨r, .ok page⟩] where
  complete := ⟨_, ⟨[], none⟩, rfl⟩
  follows state := by
    cases h : (source state r).1 with
    | ok page =>
      rw [run_ask_ok h]
      exact .returned rfl
    | error f =>
      rw [run_ask_error h]
      exact @Follows.failed _ _ [] [] r ⟨[], none⟩ f ⟨[], none⟩ rfl

theorem Obeys.mono {t : Session σ α} {L L' : List Exchange → α → Prop} (h : t.Obeys L)
    (hL : ∀ log a, L log a → L' log a) : t.Obeys L' where
  complete := by
    obtain ⟨log, a, hl⟩ := h.complete
    exact ⟨log, a, hL log a hl⟩
  follows state := @Follows.mono _ L _ _ L' [] (h.follows state) hL

/-- **A sequence obeys the sequence.** The second part may use what the first part read. -/
theorem Obeys.bind {t : Session σ α} {next : α → Session σ β} {L : List Exchange → α → Prop}
    {N : List Exchange → β → Prop} (ht : t.Obeys L)
    (hnext : ∀ log a, L log a → (next a).Obeys fun log' b => N (log ++ log') b) :
    (t >>= next).Obeys N where
  complete := by
    obtain ⟨log, a, hl⟩ := ht.complete
    obtain ⟨log', b, hb⟩ := (hnext log a hl).complete
    exact ⟨_, b, hb⟩
  follows state := by
    have hs := ht.follows state
    cases h : (t.run state).outcome with
    | returned a =>
      rw [run_bind_returned h]
      rw [h] at hs
      exact ((hnext _ a hs.complete).follows _).mono fun _ _ hb => hb
    | failed f =>
      -- The first part could have gone on, and then the second part has a complete log.
      rw [run_bind_failed h]
      rw [h] at hs
      exact hs.of_failed fun log a hl => (hnext log a hl).complete
    | unfinished =>
      rw [run_bind_unfinished h]
      rw [h] at hs
      exact hs.of_unfinished fun log a hl => (hnext log a hl).complete

variable (source : Source σ) (limit : Nat)

theorem obeys_gather {visit : α → Session σ (List β)} {Visit : α → List Exchange → List β → Prop}
    (hv : ∀ a, (visit a).Obeys (Visit a)) (as : List α) :
    (Listing.gather visit as).Obeys (Gathered Visit as) := by
  induction as with
  | nil => exact obeys_pure .nil
  | cons a rest ih =>
    refine (hv a).bind fun log here ha => ih.bind fun log' later hrest => obeys_pure ?_
    rw [List.append_nil]
    exact .cons ha hrest

theorem obeys_walk (r : Resource) {visit : r.Item → Session σ (List β)}
    {Visit : r.Item → List Exchange → List β → Prop} (hv : ∀ a, (visit a).Obeys (Visit a))
    (start : Option UInt64) :
    (Listing.walk (reader source) r visit limit start).Obeys (Walked r Visit start) := by
  induction limit generalizing start with
  | zero => exact obeys_unfinished (Walked.exists_log (fun a => (hv a).complete) start)
  | succ limit ih =>
    refine (obeys_ask source ⟨r, start⟩).bind fun log page hlog => ?_
    subst hlog
    refine (obeys_gather hv page.items).bind fun log here hg => ?_
    cases hn : page.next with
    | none =>
      refine obeys_pure ?_
      rw [List.append_nil, List.singleton_append]
      exact .last hn hg
    | some next =>
      refine (ih (some next)).bind fun log' later hw => obeys_pure ?_
      rw [List.append_nil, List.singleton_append]
      exact .more hn hg hw

/-- A walk without requests for the items reads a chain. -/
theorem obeys_silent_walk (r : Resource) (f : r.Item → β) :
    (Listing.walk (reader source) r (fun a => pure [f a]) limit none).Obeys
      fun log results => ∃ items, Chain r none log items ∧ results = items.map f := by
  have hs (a : r.Item) : (pure [f a] : Session σ (List β)).Obeys (Silent f a) :=
    obeys_pure ⟨rfl, rfl⟩
  exact (obeys_walk source limit r hs none).mono fun _ _ h => h.chain

theorem obeys_statuses (commit : String) :
    (Listing.statuses (reader source) limit commit).Obeys
      (Chain (.buildStatuses commit) none) := by
  refine (obeys_silent_walk source limit (.buildStatuses commit) id).mono fun log _ h => ?_
  obtain ⟨items, hc, rfl⟩ := h
  rwa [List.map_id]

theorem obeys_isGreen (policy : Policy) (commit : String) :
    (Listing.isGreen (reader source) limit policy commit).Obeys (Checked policy commit) := by
  refine (obeys_statuses source limit commit).bind fun log statuses hc => ?_
  exact obeys_pure_append ⟨statuses, hc, rfl⟩

theorem obeys_history (repository : Repository) (c : Candidate) :
    (Listing.history (reader source) limit repository c).Obeys fun log marked =>
      ∃ commits, Chain (.commits repository c.number) none log commits ∧
        marked = commits.map (Commit.markTip c) :=
  obeys_silent_walk source limit (.commits repository c.number) (Commit.markTip c)

theorem obeys_firstGreen (policy : Policy) (c : Candidate) (commits : List Commit) :
    (Listing.firstGreen (reader source) limit policy (commits.map (Commit.markTip c))).Obeys
      (Probed policy c commits) := by
  induction commits with
  | nil => exact obeys_pure .nil
  | cons k rest ih =>
    rw [List.map_cons, Listing.firstGreen]
    split
    next ht => exact ih.mono fun _ _ h => .tip ((k.isTip_markTip c).mp ht) h
    next ht =>
      rw [k.isTip_markTip c] at ht
      refine (obeys_isGreen source limit policy k.id).bind fun log green hc => ?_
      cases green with
      | true => exact obeys_pure_append (.green ht hc)
      | false => exact ih.mono fun _ _ h => .red ht hc h

theorem obeys_resolve (s : Selection) (c : Candidate) :
    (Listing.resolve (reader source) limit s c).Obeys (Decided s c) := by
  rw [Listing.resolve]
  cases ha : s.admits c.branch with
  | false => exact obeys_pure (.branchRejected ha)
  | true =>
    cases hp : s.policy.isEnabled with
    | false => exact obeys_pure (.noPolicy ha hp)
    | true =>
      refine (obeys_isGreen source limit s.policy c.head).bind fun log green hc => ?_
      cases green with
      | true => exact obeys_pure_append (.headGreen ha hp hc)
      | false =>
        cases hf : s.fallback with
        | false => exact obeys_pure_append (.headNotGreen ha hp hc hf)
        | true =>
          refine (obeys_history source limit s.repository c).bind fun log' marked hk => ?_
          obtain ⟨commits, hk, rfl⟩ := hk
          have hfirst := obeys_firstGreen source limit s.policy c commits
          refine hfirst.bind fun log'' found hfound => ?_
          have hd := Decided.fallback ha hp hc hf hk hfound
          cases found with
          | none => exact obeys_pure (by rwa [List.append_nil])
          | some commit => exact obeys_pure (by rwa [List.append_nil])

theorem obeys_list (s : Selection) :
    (Listing.list (reader source) limit s).Obeys (Listed s) := by
  refine obeys_walk source limit _ (fun c => ?_) none
  refine (obeys_resolve source limit s c).bind fun log result hd => ?_
  exact obeys_pure_append ⟨result, hd, rfl⟩

end Session

/-- **A listing follows its protocol.** Whatever the source answers, the log of a run holds its
answers to the requests of the run, and these are the requests of the protocol: the log is complete
if the run has a result, and ends at the failed request if it fails. -/
theorem list_follows_protocol (source : Source σ) (limit : Nat) (s : Selection) (state : σ) :
    Replays source state (Operation.list.run source limit s state).log
      (Operation.list.run source limit s state).state ∧
    Follows (Listed s) (Operation.list.run source limit s state).outcome
      (Operation.list.run source limit s state).log :=
  ⟨Operation.replays_run .list source limit s state,
    (Session.obeys_list source limit s).follows state⟩

end OpenPulls
