import OpenPulls.Proofs.Protocol
import OpenPulls.Proofs.Traversal

/-!
# Decisions by what the pages hold

On a source without a memory, a decision about a pull request is known from what a few pages hold:
those with the builds of its head, with its commits, and with the builds of the commits that are
tried.

* `Answers.Holds`: all pages of a resource are answered, and these are their items.
* `Searched`: what a search among commits comes to, with the first green commit that is not the tip.
* `Verdict`: the decision about a pull request. Only the pages that it needs have to be answered and
  to come to an end.

`resolve_gives_iff` says that these are the decisions that are made. The log of a decision shows
what the pages hold that were read for it (`Decided.verdict`), and in the other direction every
limit that is large enough lets a verdict be reached (`resolve_gives_of_verdict`).
-/

namespace OpenPulls

open Listing

variable {σ β : Type}

/-! ## What the pages hold -/

section Pages

variable {answers : Answers} {r : Resource}

/-- All pages of the resource are answered, from the first to one that has no successor, and these
are their items in order. -/
def Answers.Holds (answers : Answers) (r : Resource) (items : List r.Item) : Prop :=
  ∃ pages, Leads (answers.pages r) none pages none ∧ itemsOf pages = items

/-- All build statuses of the commit are shown, and this is what the policy makes of them. -/
def Answers.Judges (answers : Answers) (policy : Policy) (commit : String) (green : Bool) : Prop :=
  ∃ statuses, answers.Holds (.buildStatuses commit) statuses ∧ policy.isGreen statuses = green

theorem Answers.Holds.unique {items items' : List r.Item} (h : answers.Holds r items)
    (h' : answers.Holds r items') : items = items' := by
  obtain ⟨pages, hl, rfl⟩ := h
  obtain ⟨pages', hl', rfl⟩ := h'
  rw [hl.unique hl']

theorem Answers.Judges.unique {policy : Policy} {commit : String} {green green' : Bool}
    (h : answers.Judges policy commit green) (h' : answers.Judges policy commit green') :
    green = green' := by
  obtain ⟨statuses, hs, rfl⟩ := h
  obtain ⟨statuses', hs', rfl⟩ := h'
  rw [hs.unique hs']

theorem Chain.leads {start : Option UInt64} {log : List Exchange} {items : List r.Item}
    (h : Chain r start log items) (hlog : ∀ x ∈ log, x.answer = answers x.request) :
    ∃ pages, Leads (answers.pages r) start pages none ∧ itemsOf pages = items := by
  induction h with
  | @last start page hn =>
    have hpage := hlog _ List.mem_cons_self
    exact ⟨[page], .last hpage.symm hn, by simp⟩
  | @more start page next log items hn _ ih =>
    obtain ⟨hpage, hlog⟩ := List.forall_mem_cons.mp hlog
    obtain ⟨pages, hl, rfl⟩ := ih hlog
    exact ⟨page :: pages, .more hpage.symm hn hl, itemsOf_cons page pages⟩

/-- What was read of a resource is what it holds. -/
theorem Chain.holds {log : List Exchange} {items : List r.Item} (h : Chain r none log items)
    (hlog : ∀ x ∈ log, x.answer = answers x.request) : answers.Holds r items :=
  h.leads hlog

theorem Checked.judges {policy : Policy} {commit : String} {log : List Exchange} {green : Bool}
    (h : Checked policy commit log green) (hlog : ∀ x ∈ log, x.answer = answers x.request) :
    answers.Judges policy commit green := by
  obtain ⟨statuses, hc, hg⟩ := h
  exact ⟨statuses, hc.holds hlog, hg⟩

/-- A walk without requests for the items gives what the items give, once the limit is large
enough. -/
theorem eventually_silent_walk {items : List r.Item} (h : answers.Holds r items) (f : r.Item → β) :
    ∀ᶠ limit in Filter.atTop, walk answers.reader r (fun a => pure [f a]) limit none =
      .returned (items.map f) := by
  obtain ⟨pages, hl, rfl⟩ := h
  filter_upwards [Filter.eventually_ge_atTop pages.length] with limit hle
  obtain ⟨more, rfl⟩ := Nat.exists_eq_add_of_le hle
  have hg : gather (fun a => pure [f a]) (itemsOf pages) =
      Outcome.returned ((itemsOf pages).map f) := by
    rw [List.map_eq_flatMap]
    exact gather_returned fun _ _ => rfl
  rw [walk_leads hl, hg, Outcome.returned_bind]
  rfl

theorem eventually_isGreen {policy : Policy} {commit : String} {green : Bool}
    (h : answers.Judges policy commit green) :
    ∀ᶠ limit in Filter.atTop, isGreen answers.reader limit policy commit = .returned green := by
  obtain ⟨shown, hshown, rfl⟩ := h
  filter_upwards [eventually_silent_walk hshown id] with limit hw
  have hs : statuses answers.reader limit commit = .returned shown := by
    rw [← List.map_id shown]
    exact hw
  rw [isGreen, hs]
  rfl

end Pages

/-! ## The search for a green commit -/

section Search

variable {answers : Answers} {policy : Policy} {c : Candidate}

/-- None of the commits is taken: each is the tip, or is not green. -/
def PassedOver (answers : Answers) (policy : Policy) (c : Candidate) (commits : List Commit) :
    Prop :=
  ∀ k ∈ commits, ¬ k.IsTipOf c → answers.Judges policy k.id false

/-- What the search for a green commit comes to: the first one that is not the tip and is green, or
none. -/
inductive Searched (answers : Answers) (policy : Policy) (c : Candidate) :
    List Commit → Option String → Prop
  | found {before after : List Commit} {k : Commit} : PassedOver answers policy c before →
      ¬ k.IsTipOf c → answers.Judges policy k.id true →
      Searched answers policy c (before ++ k :: after) (some k.id)
  | exhausted {commits : List Commit} : PassedOver answers policy c commits →
      Searched answers policy c commits none

theorem Searched.cons {k : Commit} {rest : List Commit} {found : Option String}
    (hk : ¬ k.IsTipOf c → answers.Judges policy k.id false)
    (h : Searched answers policy c rest found) : Searched answers policy c (k :: rest) found := by
  cases h with
  | found hbefore htip hgreen =>
    exact .found (List.forall_mem_cons.mpr ⟨hk, hbefore⟩) htip hgreen
  | exhausted hrest => exact .exhausted (List.forall_mem_cons.mpr ⟨hk, hrest⟩)

/-- The commits that were probed were searched. -/
theorem Probed.searched {commits : List Commit} {log : List Exchange} {found : Option String}
    (h : Probed policy c commits log found) (hlog : ∀ x ∈ log, x.answer = answers x.request) :
    Searched answers policy c commits found := by
  induction h with
  | nil => exact .exhausted (List.forall_mem_nil _)
  | tip hk _ ih => exact (ih hlog).cons fun hnot => absurd hk hnot
  | green hk hc => exact .found (List.forall_mem_nil _) hk (hc.judges hlog)
  | red _ hc _ ih =>
    obtain ⟨hhere, hlater⟩ := List.forall_mem_append.mp hlog
    exact (ih hlater).cons fun _ => hc.judges hhere

/-- Commits that are passed over do not show in the search. -/
theorem eventually_firstGreen_append {before : List Commit}
    (h : PassedOver answers policy c before) (rest : List Commit) :
    ∀ᶠ limit in Filter.atTop,
      firstGreen answers.reader limit policy ((before ++ rest).map (Commit.markTip c)) =
        firstGreen answers.reader limit policy (rest.map (Commit.markTip c)) := by
  induction before with
  | nil => exact .of_forall fun _ => rfl
  | cons k before ih =>
    obtain ⟨hk, hbefore⟩ := List.forall_mem_cons.mp h
    by_cases htip : k.IsTipOf c
    · filter_upwards [ih hbefore] with limit hrest
      rw [List.cons_append, List.map_cons, firstGreen, if_pos ((k.isTip_markTip c).mpr htip), hrest]
    · filter_upwards [ih hbefore, eventually_isGreen (hk htip)] with limit hrest hred
      rw [List.cons_append, List.map_cons, firstGreen,
        if_neg fun ht => htip ((k.isTip_markTip c).mp ht)]
      show (isGreen answers.reader limit policy k.id >>= _) = _
      rw [hred, Outcome.returned_bind, if_neg Bool.false_ne_true, hrest]

theorem eventually_firstGreen {commits : List Commit} {found : Option String}
    (h : Searched answers policy c commits found) :
    ∀ᶠ limit in Filter.atTop,
      firstGreen answers.reader limit policy (commits.map (Commit.markTip c)) =
        .returned found := by
  cases h with
  | @found before after k hbefore htip hgreen =>
    filter_upwards [eventually_firstGreen_append hbefore (k :: after), eventually_isGreen hgreen]
      with limit hrest hg
    rw [hrest, List.map_cons, firstGreen, if_neg fun ht => htip ((k.isTip_markTip c).mp ht)]
    show (isGreen answers.reader limit policy k.id >>= _) = _
    rw [hg, Outcome.returned_bind]
    rfl
  | exhausted hall =>
    filter_upwards [eventually_firstGreen_append hall []] with limit hrest
    rw [List.append_nil] at hrest
    rw [hrest]
    rfl

end Search

/-! ## The decision -/

theorem Selection.admits_eq_true_iff {s : Selection} {branch : String} :
    s.admits branch = true ↔ ∀ p, s.branch = some p → p.isMatch branch = true := by
  unfold admits
  cases s.branch <;> simp

theorem Selection.admits_eq_false_iff {s : Selection} {branch : String} :
    s.admits branch = false ↔ ∃ p, s.branch = some p ∧ p.isMatch branch = false := by
  unfold admits
  cases s.branch <;> simp

theorem Policy.isEnabled_eq_true_iff {policy : Policy} :
    policy.isEnabled = true ↔ policy ≠ .noCheck := by
  cases policy <;> simp [isEnabled]

theorem Policy.isEnabled_eq_false_iff {policy : Policy} :
    policy.isEnabled = false ↔ policy = .noCheck := by
  cases policy <;> simp [isEnabled]

/-- The branch is asked for and builds are looked at, so the head is judged. -/
structure LooksAtBuilds (s : Selection) (c : Candidate) : Prop where
  branch : ∀ p, s.branch = some p → p.isMatch c.branch = true
  policy : s.policy ≠ .noCheck

theorem looksAtBuilds_iff {s : Selection} {c : Candidate} :
    LooksAtBuilds s c ↔ s.admits c.branch = true ∧ s.policy.isEnabled = true := by
  rw [Selection.admits_eq_true_iff, Policy.isEnabled_eq_true_iff]
  exact ⟨fun h => ⟨h.branch, h.policy⟩, fun h => ⟨h.1, h.2⟩⟩

/-- The decision about a pull request, by what the pages hold that are needed for it. -/
inductive Verdict (answers : Answers) (s : Selection) (c : Candidate) : Resolution → Prop
  | branchRejected {p : Pattern} : s.branch = some p → p.isMatch c.branch = false →
      Verdict answers s c .branchRejected
  | noPolicy : (∀ p, s.branch = some p → p.isMatch c.branch = true) → s.policy = .noCheck →
      Verdict answers s c .noPolicy
  | headGreen : LooksAtBuilds s c → answers.Judges s.policy c.head true →
      Verdict answers s c .headGreen
  | headNotGreen : LooksAtBuilds s c → answers.Judges s.policy c.head false →
      s.fallback = false → Verdict answers s c .headNotGreen
  | fallbackFound {commits : List Commit} {id : String} : LooksAtBuilds s c →
      answers.Judges s.policy c.head false → s.fallback = true →
      answers.Holds (.commits s.repository c.number) commits →
      Searched answers s.policy c commits (some id) → Verdict answers s c (.fallbackFound id)
  | fallbackExhausted {commits : List Commit} : LooksAtBuilds s c →
      answers.Judges s.policy c.head false → s.fallback = true →
      answers.Holds (.commits s.repository c.number) commits →
      Searched answers s.policy c commits none → Verdict answers s c .fallbackExhausted

section Verdict

variable {answers : Answers} {s : Selection} {c : Candidate}

/-- The log of a decision shows what the pages hold that it needed. -/
theorem Decided.verdict {log : List Exchange} {result : Resolution} (h : Decided s c log result)
    (hlog : ∀ x ∈ log, x.answer = answers x.request) : Verdict answers s c result := by
  cases h with
  | branchRejected ha =>
    obtain ⟨p, hp, hm⟩ := Selection.admits_eq_false_iff.mp ha
    exact .branchRejected hp hm
  | noPolicy ha hp =>
    exact .noPolicy (Selection.admits_eq_true_iff.mp ha) (Policy.isEnabled_eq_false_iff.mp hp)
  | headGreen ha hp hc => exact .headGreen (looksAtBuilds_iff.mpr ⟨ha, hp⟩) (hc.judges hlog)
  | headNotGreen ha hp hc hf =>
    exact .headNotGreen (looksAtBuilds_iff.mpr ⟨ha, hp⟩) (hc.judges hlog) hf
  | @fallback log log' log'' commits found ha hp hc hf hk hs =>
    obtain ⟨hhead, hlog⟩ := List.forall_mem_append.mp hlog
    obtain ⟨hhistory, hprobes⟩ := List.forall_mem_append.mp hlog
    have hb : LooksAtBuilds s c := looksAtBuilds_iff.mpr ⟨ha, hp⟩
    have hsearch := hs.searched hprobes
    cases found with
    | none =>
      exact .fallbackExhausted hb (hc.judges hhead) hf (hk.holds hhistory) hsearch
    | some id => exact .fallbackFound hb (hc.judges hhead) hf (hk.holds hhistory) hsearch

/-- Where the head is not green and older commits count, the search decides. -/
theorem eventually_resolve_of_searched (hb : LooksAtBuilds s c)
    (hhead : answers.Judges s.policy c.head false) (hf : s.fallback = true) {commits : List Commit}
    (hk : answers.Holds (.commits s.repository c.number) commits) {found : Option String}
    (hs : Searched answers s.policy c commits found) :
    ∀ᶠ limit in Filter.atTop, resolve answers.reader limit s c =
      .returned (found.elim .fallbackExhausted .fallbackFound) := by
  obtain ⟨ha, hp⟩ := looksAtBuilds_iff.mp hb
  filter_upwards [eventually_isGreen hhead, eventually_silent_walk hk (Commit.markTip c),
    eventually_firstGreen hs] with limit hred hwalk hfirst
  have hhistory : history answers.reader limit s.repository c =
      .returned (commits.map (Commit.markTip c)) := hwalk
  rw [resolve, ha, hp, hf]
  simp only [Bool.not_true, Bool.false_eq_true, if_false, hred, hhistory, hfirst,
    Outcome.returned_bind]
  cases found <;> rfl

/-- A verdict is reached within every limit that is large enough. -/
theorem eventually_resolve_of_verdict {result : Resolution} (h : Verdict answers s c result) :
    ∀ᶠ limit in Filter.atTop, resolve answers.reader limit s c = .returned result := by
  cases h with
  | branchRejected hp hm =>
    refine .of_forall fun limit => ?_
    rw [resolve, Selection.admits_eq_false_iff.mpr ⟨_, hp, hm⟩]
    rfl
  | noPolicy hm hp =>
    refine .of_forall fun limit => ?_
    rw [resolve, Selection.admits_eq_true_iff.mpr hm, Policy.isEnabled_eq_false_iff.mpr hp]
    rfl
  | headGreen hb hhead =>
    obtain ⟨ha, hp⟩ := looksAtBuilds_iff.mp hb
    filter_upwards [eventually_isGreen hhead] with limit hgreen
    rw [resolve, ha, hp]
    simp only [Bool.not_true, Bool.false_eq_true, if_false, hgreen, Outcome.returned_bind]
    rfl
  | headNotGreen hb hhead hf =>
    obtain ⟨ha, hp⟩ := looksAtBuilds_iff.mp hb
    filter_upwards [eventually_isGreen hhead] with limit hred
    rw [resolve, ha, hp, hf]
    simp only [Bool.not_true, Bool.false_eq_true, if_false, hred, Outcome.returned_bind]
    rfl
  | fallbackFound hb hhead hf hk hs => exact eventually_resolve_of_searched hb hhead hf hk hs
  | fallbackExhausted hb hhead hf hk hs => exact eventually_resolve_of_searched hb hhead hf hk hs

variable {source : Source σ}

theorem resolve_gives_of_verdict (h : source.AnswersBy answers) {result : Resolution}
    (hv : Verdict answers s c result) (state : σ) :
    (Operation.resolve c).Gives source s state (.ok result) :=
  (Operation.gives_iff_eventually h).mpr (eventually_resolve_of_verdict hv)

theorem verdict_of_gives (h : source.AnswersBy answers) {result : Resolution} {state : σ}
    (hg : (Operation.resolve c).Gives source s state (.ok result)) :
    Verdict answers s c result := by
  obtain ⟨_, ⟨-, limit, rfl⟩, ho⟩ := hg
  have hfollows := (Session.obeys_resolve source limit s c).follows state
  have hreplays := Operation.replays_run (.resolve c) source limit s state
  rw [Operation.run, Operation.perform] at ho hreplays
  rw [ho] at hfollows
  exact hfollows.complete.verdict (Replays.answer_eq h hreplays)

/-- **A decision is what the pages hold that it needs.** On a source without a memory a decision is
made exactly if there is such a verdict. A commit that is found in place of the head is green, it is
not the head under either name, and no commit before it is green but the tip. -/
theorem resolve_gives_iff (h : source.AnswersBy answers) (s : Selection) (c : Candidate)
    (state : σ) :
    (∀ result, (Operation.resolve c).Gives source s state (.ok result) ↔
      Verdict answers s c result) ∧
    ∀ id, (Operation.resolve c).Gives source s state (.ok (.fallbackFound id)) →
      answers.Judges s.policy id true ∧ id ≠ c.head ∧ id ≠ c.ref ∧
      ∃ before k after, answers.Holds (.commits s.repository c.number) (before ++ k :: after) ∧
        k.id = id ∧ ∀ b ∈ before, ¬ b.IsTipOf c → ¬ answers.Judges s.policy b.id true := by
  refine ⟨fun result => ⟨verdict_of_gives h, fun hv => resolve_gives_of_verdict h hv state⟩,
    fun id hg => ?_⟩
  cases verdict_of_gives h hg with
  | fallbackFound hb hhead hf hk hs =>
    cases hs with
    | @found before after k hbefore htip hgreen =>
      simp only [Commit.IsTipOf, not_or] at htip
      refine ⟨hgreen, htip.2.1, htip.2.2, before, k, after, hk, rfl, fun b hmem hb => ?_⟩
      exact fun hgreen => Bool.false_ne_true ((hbefore b hmem hb).unique hgreen)

end Verdict

/-- A server with the commits of a pull request on two pages. The tip stands among them under three
names. The builds of its head and of one more commit failed. -/
def layered : Answers
  | ⟨.pullRequests _, _⟩ => .ok ⟨[], none⟩
  | ⟨.commits _ _, none⟩ => .ok ⟨[⟨"head", false⟩, ⟨"red", false⟩], some 2⟩
  | ⟨.commits _ _, some _⟩ =>
    .ok ⟨[⟨"refs/heads/x", false⟩, ⟨"merge", true⟩, ⟨"old", false⟩, ⟨"older", false⟩], none⟩
  | ⟨.buildStatuses commit, _⟩ =>
    .ok ⟨[⟨"u", if commit = "head" ∨ commit = "red" then .failed else .successful⟩], none⟩

theorem resolve_gives_iff_layered :
    let s : Selection := ⟨⟨"P", "R"⟩, none, .allGreen, true⟩
    let c : Candidate := ⟨1, "x", "refs/heads/x", "head"⟩
    layered.source.AnswersBy layered ∧
      (Operation.resolve c).Gives layered.source s () (.ok (.fallbackFound "old")) ∧
      Verdict layered s c (.fallbackFound "old") ∧ layered.Judges .allGreen "old" true := by
  intro s c
  have h := layered.source_answersBy
  have hgives : (Operation.resolve c).Gives layered.source s () (.ok (.fallbackFound "old")) :=
    (Operation.gives_iff h).mpr ⟨2, rfl⟩
  obtain ⟨hiff, hfound⟩ := resolve_gives_iff h s c ()
  exact ⟨h, hgives, (hiff _).mp hgives, (hfound _ hgives).1⟩

end OpenPulls
