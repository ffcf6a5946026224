import OpenPulls.Proofs.Requests
import OpenPulls.Proofs.Verdicts

/-!
# Decisions as searches

On a source without a memory whose pages are all answered and come to an end, a decision about a
pull request is a search: of the commits that may be taken, the first green one is.

* `Candidate.ranking`: the commits that may be taken for a pull request, in the order in which they
  are tried.
* `decision`: the decision as a function of what the pages hold. It comes of `Listing.resolve`
  (`resolve_gives`), and what it accepts is the first green commit (`accepted?_decision`).
-/

namespace OpenPulls

open Listing

variable {σ α β : Type}

/-! ## The search -/

instance (c : Candidate) (k : Commit) : Decidable (k.IsTipOf c) :=
  inferInstanceAs (Decidable (_ ∨ _))

/-- The commits that may be taken for a pull request, in the order in which they are tried: the
head, and then its other commits. -/
def Candidate.ranking (c : Candidate) (commits : List Commit) : List String :=
  c.head :: (commits.filter fun k => ¬ k.IsTipOf c).map Commit.id

/-- The decision about a pull request whose commits are known, as well as which commits are
green. -/
def decision (s : Selection) (green : String → Bool) (commits : List Commit) (c : Candidate) :
    Resolution :=
  if !s.admits c.branch then .branchRejected
  else if !s.policy.isEnabled then .noPolicy
  else if green c.head then .headGreen
  else if !s.fallback then .headNotGreen
  else match ((commits.filter fun k => ¬ k.IsTipOf c).map Commit.id).find? green with
    | some commit => .fallbackFound commit
    | none => .fallbackExhausted

/-- **The first green commit is taken**, among those that count. -/
theorem accepted?_decision (s : Selection) (green : String → Bool) (commits : List Commit)
    (c : Candidate) (ha : s.admits c.branch = true) (hp : s.policy.isEnabled = true) :
    (decision s green commits c).accepted? c =
      (if s.fallback then c.ranking commits else [c.head]).find? green := by
  rw [decision, ha, hp, Candidate.ranking]
  cases hg : green c.head with
  | true => cases s.fallback <;> simp [hg, Resolution.accepted?]
  | false =>
    cases s.fallback with
    | false => simp [hg, Resolution.accepted?]
    | true =>
      simp only [Bool.not_true, Bool.false_eq_true, if_false, if_true, List.find?_cons, hg]
      cases List.find? green _ <;> rfl

/-- The branch is one of those asked for if a commit is accepted. -/
theorem admits_of_accepted {s : Selection} {green : String → Bool} {commits : List Commit}
    {c : Candidate} {id : String} (h : (decision s green commits c).accepted? c = some id) :
    s.admits c.branch = true := by
  cases ha : s.admits c.branch with
  | true => rfl
  | false =>
    rw [decision, ha] at h
    cases h

/-! ## The search in pages -/

section Pages

variable {answers : Answers} {s : Selection} {c : Candidate}
  {builds : String → List (Page BuildStatus)}

/-- Whether the build statuses on the pages of a commit make it green. -/
def greenOn (policy : Policy) (builds : String → List (Page BuildStatus)) (commit : String) :
    Bool :=
  policy.isGreen (itemsOf (builds commit))

theorem judges_greenOn
    (hb : ∀ commit, Leads (answers.pages (.buildStatuses commit)) none (builds commit) none)
    (policy : Policy) (commit : String) :
    answers.Judges policy commit (greenOn policy builds commit) :=
  ⟨_, ⟨_, hb commit, rfl⟩, rfl⟩

/-- The commits other than the tip are searched for a green one. -/
theorem searched_find
    (hb : ∀ commit, Leads (answers.pages (.buildStatuses commit)) none (builds commit) none)
    (policy : Policy) (c : Candidate) (commits : List Commit) :
    Searched answers policy c commits
      (((commits.filter fun k => ¬ k.IsTipOf c).map Commit.id).find? (greenOn policy builds)) := by
  induction commits with
  | nil => exact .exhausted (List.forall_mem_nil _)
  | cons k rest ih =>
    have hk := judges_greenOn hb policy k.id
    by_cases htip : k.IsTipOf c
    · rw [List.filter_cons_of_neg (by simpa using htip)]
      exact ih.cons fun hnot => absurd htip hnot
    · rw [List.filter_cons_of_pos (by simpa using htip), List.map_cons, List.find?_cons]
      cases hg : greenOn policy builds k.id with
      | true =>
        rw [hg] at hk
        exact .found (List.forall_mem_nil _) htip hk
      | false =>
        rw [hg] at hk
        exact ih.cons fun _ => hk

theorem verdict_decision
    (hb : ∀ commit, Leads (answers.pages (.buildStatuses commit)) none (builds commit) none)
    {pages : List (Page Commit)}
    (hk : Leads (answers.pages (.commits s.repository c.number)) none pages none) :
    Verdict answers s c (decision s (greenOn s.policy builds) (itemsOf pages) c) := by
  have hhead := judges_greenOn hb s.policy c.head
  have hcommits : answers.Holds (.commits s.repository c.number) (itemsOf pages) := ⟨_, hk, rfl⟩
  have hsearch := searched_find hb s.policy c (itemsOf pages)
  rw [decision]
  cases ha : s.admits c.branch with
  | false =>
    obtain ⟨p, hp, hm⟩ := Selection.admits_eq_false_iff.mp ha
    exact .branchRejected hp hm
  | true =>
    cases hp : s.policy.isEnabled with
    | false =>
      exact .noPolicy (Selection.admits_eq_true_iff.mp ha) (Policy.isEnabled_eq_false_iff.mp hp)
    | true =>
      have hlooks : LooksAtBuilds s c := looksAtBuilds_iff.mpr ⟨ha, hp⟩
      simp only [Bool.not_true, Bool.false_eq_true, if_false]
      cases hg : greenOn s.policy builds c.head with
      | true => exact .headGreen hlooks (hg ▸ hhead)
      | false =>
        rw [hg] at hhead
        cases hf : s.fallback with
        | false => exact .headNotGreen hlooks hhead hf
        | true =>
          simp only [Bool.not_true, Bool.false_eq_true, if_false]
          cases hfound : List.find? (greenOn s.policy builds)
              (((itemsOf pages).filter fun k => ¬ k.IsTipOf c).map Commit.id) with
          | some id => exact .fallbackFound hlooks hhead hf hcommits (hfound ▸ hsearch)
          | none => exact .fallbackExhausted hlooks hhead hf hcommits (hfound ▸ hsearch)

/-- **A decision is a search in what the pages hold.** -/
theorem resolve_gives {source : Source σ} (h : source.AnswersBy answers)
    (hb : ∀ commit, Leads (answers.pages (.buildStatuses commit)) none (builds commit) none)
    {pages : List (Page Commit)}
    (hk : Leads (answers.pages (.commits s.repository c.number)) none pages none) (state : σ) :
    (Operation.resolve c).Gives source s state
      (.ok (decision s (greenOn s.policy builds) (itemsOf pages) c)) :=
  resolve_gives_of_verdict h (verdict_decision hb hk) state

/-- A listing of pages that are all answered holds what the searches for its pull requests find. -/
theorem list_gives {source : Source σ} (h : source.AnswersBy answers)
    {pulls : List (Page Candidate)} {history : UInt64 → List (Page Commit)}
    (hp : Leads (answers.pages (.pullRequests s.repository)) none pulls none)
    (hk : ∀ number, Leads (answers.pages (.commits s.repository number)) none (history number) none)
    (hb : ∀ commit, Leads (answers.pages (.buildStatuses commit)) none (builds commit) none)
    (state : σ) :
    Operation.list.Gives source s state (.ok (acceptedOf
      (fun c => decision s (greenOn s.policy builds) (itemsOf (history c.number)) c)
      (itemsOf pulls))) :=
  gives_of_traversed h (.complete hp fun c _ => resolve_gives h hb (hk c.number) state)

end Pages

end OpenPulls
