import OpenPulls.Proofs.Decisions
import OpenPulls.Proofs.Settings

/-!
# Builds and patterns as sets

A listing depends on the set of the build statuses of a commit and on the set of the patterns for
builds. The order of either, repetitions, and the pages that the statuses stand on do not count
(`list_build_sets`).

A policy asks that something hold of every member of a list, or of some member
(`Policy.isGreen_congr`), and only an empty list has the members of an empty list, so the kind of
the policy does not change either. Texts with the same members are read as patterns with the same
members, and if the one list can be read, so can the other (`Settings.exists_reads`).
-/

namespace OpenPulls

open Listing

variable {σ τ α : Type}

/-! ## Lists with the same members -/

/-- Both lists have the same members, in any order and any number of times. -/
def SameMembers (as bs : List α) : Prop := ∀ a, a ∈ as ↔ a ∈ bs

namespace SameMembers

variable {as bs : List α}

theorem all_eq (h : SameMembers as bs) (p : α → Bool) : as.all p = bs.all p := by
  rw [Bool.eq_iff_iff, List.all_eq_true, List.all_eq_true]
  exact forall_congr' fun a => imp_congr_left (h a)

theorem any_eq (h : SameMembers as bs) (p : α → Bool) : as.any p = bs.any p := by
  rw [Bool.eq_iff_iff, List.any_eq_true, List.any_eq_true]
  exact exists_congr fun a => and_congr_left' (h a)

theorem nil_iff (h : SameMembers as bs) : as = [] ↔ bs = [] := by
  simp only [List.eq_nil_iff_forall_not_mem]
  exact forall_congr' fun a => not_congr (h a)

end SameMembers

/-! ## Policies -/

namespace Policy

variable {builds builds' : Option (List Pattern)}

theorem ofPatterns_of_ne_nil {patterns : List Pattern} (h : patterns ≠ []) :
    ofPatterns (some patterns) = .named patterns := by
  cases patterns with
  | nil => exact absurd rfl h
  | cons p ps => rfl

theorem isEnabled_ofPatterns (builds : Option (List Pattern)) :
    (ofPatterns builds).isEnabled = builds.isSome := by
  cases builds with
  | none => rfl
  | some patterns => cases patterns <;> rfl

/-- **Only the members count**, of the patterns and of the statuses. -/
theorem isGreen_congr (h : Option.Rel SameMembers builds builds')
    {statuses statuses' : List BuildStatus} (hs : SameMembers statuses statuses') :
    (ofPatterns builds).isGreen statuses = (ofPatterns builds').isGreen statuses' := by
  cases h with
  | none => rfl
  | @some patterns patterns' hp =>
    by_cases hnil : patterns = []
    · rw [hnil, hp.nil_iff.mp hnil]
      exact hs.all_eq BuildStatus.isSuccessful
    · rw [ofPatterns_of_ne_nil hnil, ofPatterns_of_ne_nil (hp.nil_iff.not.mp hnil)]
      show namedGreen patterns statuses = namedGreen patterns' statuses'
      rw [namedGreen, namedGreen, hp.all_eq]
      simp only [hs.any_eq]

end Policy

/-! ## Settings -/

namespace Settings

theorem mem_of_reads {texts : List String} {ps : List Pattern} (h : List.Forall₂ Reads texts ps)
    (p : Pattern) : p ∈ ps ↔ ∃ text ∈ texts, Reads text p := by
  induction h with
  | nil => simp
  | @cons text p' texts ps ht _ ih =>
    have hhead : p = p' ↔ Reads text p := by
      rw [Reads, ht, Except.ok.injEq]
      exact eq_comm
    simp only [List.mem_cons, exists_eq_or_imp, ih, hhead]

theorem exists_reads_of_sameMembers {texts texts' : List String} {ps : List Pattern}
    (h : List.Forall₂ Reads texts ps) (hs : SameMembers texts texts') :
    ∃ ps', List.Forall₂ Reads texts' ps' ∧ SameMembers ps ps' := by
  have heach (text : String) (ht : text ∈ texts') : ∃ p, Reads text p :=
    exists_reads_iff.mp ⟨ps, h⟩ text ((hs text).mpr ht)
  obtain ⟨ps', h'⟩ := exists_reads_iff.mpr heach
  refine ⟨ps', h', fun p => ?_⟩
  rw [mem_of_reads h, mem_of_reads h']
  exact exists_congr fun text => and_congr_left' (hs text)

/-- The settings with this list of patterns for builds, or without one. -/
def withBuilds (settings : Settings) (builds : Option (List String)) : Settings :=
  { settings with successfulBuilds := builds }

/-- Settings with the same patterns for builds can be read if the first ones can, and what was read
differs in the policy only. That looks at builds if the first one does, and finds the same commits
green. -/
theorem Selects.withBuilds {settings : Settings} {s : Selection} (h : settings.Selects s)
    {builds : Option (List String)}
    (hb : Option.Rel SameMembers settings.successfulBuilds builds) :
    ∃ policy : Policy, (settings.withBuilds builds).Selects { s with policy } ∧
      policy.isEnabled = s.policy.isEnabled ∧
      ∀ statuses statuses', SameMembers statuses statuses' →
        s.policy.isGreen statuses = policy.isGreen statuses' := by
  obtain ⟨patterns, hr, hp⟩ := h.policy
  obtain ⟨patterns', hr', hs⟩ : ∃ patterns', Option.Rel (List.Forall₂ Reads) builds patterns' ∧
      Option.Rel SameMembers patterns patterns' := by
    generalize settings.successfulBuilds = texts at hb hr
    cases hb with
    | none =>
      cases hr
      exact ⟨none, .none, .none⟩
    | some hts =>
      cases hr with
      | some hps =>
        obtain ⟨ps', hps', hs⟩ := exists_reads_of_sameMembers hps hts
        exact ⟨some ps', .some hps', .some hs⟩
  refine ⟨.ofPatterns patterns',
    ⟨h.repository, h.branch, ⟨patterns', hr', rfl⟩, h.fallback⟩, ?_, ?_⟩
  · rw [hp, Policy.isEnabled_ofPatterns, Policy.isEnabled_ofPatterns]
    cases hs <;> rfl
  · intro statuses statuses' hstatuses
    rw [hp]
    exact Policy.isGreen_congr hs hstatuses

end Settings

/-! ## Sources -/

/-- The answers are the same but for build statuses. The pages of build statuses of a commit hold
the same statuses, in any order and any number of times. -/
structure Answers.SameButBuilds (answers answers' : Answers) : Prop where
  pullRequests (repository : Repository) :
    answers.pages (.pullRequests repository) = answers'.pages (.pullRequests repository)
  commits (repository : Repository) (number : UInt64) :
    answers.pages (.commits repository number) = answers'.pages (.commits repository number)
  builds {commit : String} {pages pages' : List (Page BuildStatus)} :
    Leads (answers.pages (.buildStatuses commit)) none pages none →
    Leads (answers'.pages (.buildStatuses commit)) none pages' none →
    SameMembers (itemsOf pages) (itemsOf pages')

/-- Which commits are green is all that a decision needs to know of an enabled policy. -/
theorem decision_policy {s : Selection} {policy : Policy}
    (h : policy.isEnabled = s.policy.isEnabled) (green : String → Bool) (commits : List Commit)
    (c : Candidate) :
    decision { s with policy } green commits c = decision s green commits c := by
  have hadmits : { s with policy }.admits c.branch = s.admits c.branch := rfl
  simp only [decision, hadmits, h]

/-- **Builds and patterns count as sets.** Let two sources without a memory, whose pages are all
answered and come to an end, differ in the order, the repetitions and the pages of build statuses
only, and two settings in the order and the repetitions of the patterns for builds only. If the
first settings can be read, so can the second ones, and both listings have the same result. -/
theorem list_build_sets {source : Source σ} {source' : Source τ} {answers answers' : Answers}
    (h : source.AnswersBy answers) (h' : source'.AnswersBy answers')
    (hends : ∀ r, ∃ pages, Leads (answers.pages r) none pages none)
    (hends' : ∀ r, ∃ pages, Leads (answers'.pages r) none pages none)
    (hsame : answers.SameButBuilds answers') {settings : Settings}
    {builds : Option (List String)}
    (hbuilds : Option.Rel SameMembers settings.successfulBuilds builds) {s : Selection}
    (hs : settings.compile = .ok s) (state : σ) (state' : τ) :
    ∃ s' ps, (settings.withBuilds builds).compile = .ok s' ∧
      Operation.list.Gives source s state (.ok ps) ∧
      Operation.list.Gives source' s' state' (.ok ps) := by
  obtain ⟨policy, hs', henabled, hgreen⟩ :=
    (Settings.compile_eq_ok_iff.mp hs).withBuilds hbuilds
  choose pages hpages using hends
  choose pages' hpages' using hends'
  have hlist := list_gives h (hpages (.pullRequests s.repository))
    (fun number => hpages (.commits s.repository number))
    (fun commit => hpages (.buildStatuses commit)) state
  have hlist' := list_gives h' (s := { s with policy })
    (hsame.pullRequests s.repository ▸ hpages (.pullRequests s.repository))
    (fun number => hsame.commits s.repository number ▸ hpages (.commits s.repository number))
    (fun commit => hpages' (.buildStatuses commit)) state'
  refine ⟨_, _, Settings.compile_eq_ok_iff.mpr hs', hlist, ?_⟩
  -- The same commits are green, so the searches for them are the same.
  have hverdicts : greenOn s.policy (fun commit => pages (.buildStatuses commit)) =
      greenOn policy (fun commit => pages' (.buildStatuses commit)) := by
    funext commit
    exact hgreen _ _ (hsame.builds (hpages _) (hpages' _))
  rw [hverdicts]
  simpa only [decision_policy henabled] using hlist'

/-- A server with a pull request whose head has a failed build, so that an older commit is taken.
The build statuses of a commit stand on the given pages. -/
def paged (builds : String → List (List BuildStatus)) : Answers
  | ⟨.pullRequests _, _⟩ => .ok ⟨[⟨1, "x", "refs/heads/x", "new"⟩], none⟩
  | ⟨.commits _ _, _⟩ => .ok ⟨[⟨"new", false⟩, ⟨"old", false⟩], none⟩
  | ⟨.buildStatuses commit, cursor⟩ =>
    let number := (cursor.getD 0).toNat
    .ok ⟨(builds commit).getD number [],
      if number + 1 < (builds commit).length then some (number + 1).toUInt64 else none⟩

/-- The status of a build that failed for the new commit. -/
def latest (commit : String) : BuildStatus :=
  ⟨"v", if commit = "new" then .failed else .successful⟩

/-- The statuses of two builds on one page. -/
def onePage (commit : String) : List (List BuildStatus) :=
  [[⟨"u", .successful⟩, latest commit]]

/-- The same statuses on two pages, in the other order and with repetitions. -/
def twoPages (commit : String) : List (List BuildStatus) :=
  [[latest commit, latest commit], [⟨"u", .successful⟩, latest commit]]

theorem list_build_sets_paged :
    let settings : Settings := ⟨⟨"P", "R"⟩, none, some ["u", "v"], true, none, ""⟩
    let builds := some ["v", "u", "v"]
    ∃ s s' ps, settings.compile = .ok s ∧ (settings.withBuilds builds).compile = .ok s' ∧
      Operation.list.Gives (paged onePage).source s () (.ok ps) ∧
      Operation.list.Gives (paged twoPages).source s' () (.ok ps) := by
  intro settings builds
  have hends (r : Resource) : ∃ pages, Leads ((paged onePage).pages r) none pages none := by
    cases r <;> exact ⟨_, .last rfl rfl⟩
  have hends' (r : Resource) : ∃ pages, Leads ((paged twoPages).pages r) none pages none := by
    cases r with
    | buildStatuses commit => exact ⟨_, .more rfl rfl (.last rfl rfl)⟩
    | _ => exact ⟨_, .last rfl rfl⟩
  have hsame : (paged onePage).SameButBuilds (paged twoPages) := by
    refine ⟨fun _ => rfl, fun _ _ => rfl, fun {commit pages pages'} hp hp' => ?_⟩
    rw [hp.unique (.last rfl rfl), hp'.unique (.more rfl rfl (.last rfl rfl))]
    intro status
    show status ∈ [⟨"u", .successful⟩, latest commit] ↔
      status ∈ [latest commit, latest commit, ⟨"u", .successful⟩, latest commit]
    simp only [List.mem_cons, List.not_mem_nil]
    tauto
  obtain ⟨s, hs⟩ : ∃ s, settings.compile = .ok s := exists_eq_ok_of_isOk (by decide +kernel)
  have hbuilds : Option.Rel SameMembers settings.successfulBuilds builds :=
    .some fun text => by simp only [List.mem_cons, List.not_mem_nil]; tauto
  obtain ⟨s', ps, hs', hlist, hlist'⟩ := list_build_sets (paged onePage).source_answersBy
    (paged twoPages).source_answersBy hends hends' hsame hbuilds hs () ()
  exact ⟨s, s', ps, hs, hs', hlist, hlist'⟩

end OpenPulls
