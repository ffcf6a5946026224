import OpenPulls.Listing.Script
import OpenPulls.Proofs.Pattern.Literals
import OpenPulls.Proofs.Protocol
import OpenPulls.Proofs.Settings

/-!
# Searching for plain patterns

Patterns are searched for, in the names of branches and in the names of builds alike. For patterns
without special characters that is the search for a part of the name: `plain_patterns_searched`.

The pattern for branches plays its part in a decision before anything is requested, so a rejection
tells whether it was found (`Operation.resolve_rejected_iff`). The patterns for builds play theirs
in the policy, after all statuses of a commit were read.
-/

namespace OpenPulls

open Pattern (IsPlain)

variable {σ : Type}

/-- A pull request is rejected for its branch exactly if the selection does not admit the branch. -/
theorem Decided.branchRejected_iff {s : Selection} {c : Candidate} {log : List Exchange}
    {result : Resolution} (h : Decided s c log result) :
    result = .branchRejected ↔ s.admits c.branch = false := by
  cases h with
  | branchRejected ha => simp [ha]
  | noPolicy ha _ => simp [ha]
  | headGreen ha _ _ => simp [ha]
  | headNotGreen ha _ _ _ => simp [ha]
  | @fallback _ _ _ _ found ha _ _ _ _ _ => cases found <;> simp [ha]

theorem Operation.resolve_rejected_iff (source : Source σ) (limit : Nat) (s : Selection)
    (c : Candidate) (state : σ) :
    ((Operation.resolve c).run source limit s state).outcome = .returned .branchRejected ↔
      s.admits c.branch = false := by
  constructor
  · intro h
    have hfollows := (Session.obeys_resolve source limit s c).follows state
    change Follows _ ((Operation.resolve c).run source limit s state).outcome _ at hfollows
    rw [h] at hfollows
    exact hfollows.complete.branchRejected_iff.mp rfl
  · intro h
    have hresolve : Listing.resolve (Session.reader source) limit s c = pure .branchRejected := by
      simp [Listing.resolve, h]
    rw [Operation.run, Operation.perform, hresolve]
    rfl

/-- Whether a commit is green is judged on all its statuses. -/
theorem Operation.isGreen_of_statuses {source : Source σ} {limit : Nat} {s : Selection}
    {commit : String} {state : σ} {statuses : List BuildStatus}
    (h : ((Operation.statuses commit).run source limit s state).outcome = .returned statuses) :
    ((Operation.isGreen commit).run source limit s state).outcome =
      .returned (s.policy.isGreen statuses) := by
  have hjudged := Session.run_bind_returned h fun all => pure (s.policy.isGreen all)
  exact congrArg (·.outcome) hjudged

namespace Settings

variable {settings : Settings} {s : Selection}

/-- A plain pattern admits the branches in whose names it stands. -/
theorem Selects.admits_plain_iff (h : settings.Selects s) {w : String}
    (hw : settings.branchMatch = some w) (hplain : IsPlain w.toList) (branch : String) :
    s.admits branch = true ↔ w.toList <:+: branch.toList := by
  have hbranch := h.branch
  rw [hw] at hbranch
  cases hp : s.branch with
  | none =>
    rw [hp] at hbranch
    cases hbranch
  | some p =>
    rw [hp, Option.rel_some_some] at hbranch
    rw [Selection.admits, hp]
    exact Pattern.isMatch_plain hplain hbranch branch

/-- Plain patterns ask for successful builds in whose names they stand. -/
theorem Selects.isGreen_plain_iff (h : settings.Selects s) {ws : List String}
    (hws : settings.successfulBuilds = some ws) (hne : ws ≠ [])
    (hplain : ∀ w ∈ ws, IsPlain w.toList) (statuses : List BuildStatus) :
    s.policy.isGreen statuses = true ↔
      ∀ w ∈ ws, ∃ status ∈ statuses, status.state = .successful ∧
        w.toList <:+: status.name.toList := by
  obtain ⟨ps, hps, -⟩ := h.policy_eq hws
  have hread : ∀ w ∈ ws, ∃ p, Reads w p ∧ True :=
    (forall_mem_iff_of_reads hps).mp fun _ _ => trivial
  rw [h.isGreen_iff hws, Satisfied, and_iff_right fun hnil => absurd hnil hne]
  refine forall₂_congr fun w hw => ?_
  constructor
  · rintro ⟨p, hp, status, hstatus, hmatch, hsuccess⟩
    exact ⟨status, hstatus, hsuccess,
      (Pattern.isMatch_plain (hplain w hw) hp status.name).mp hmatch⟩
  · rintro ⟨status, hstatus, hsuccess, hstands⟩
    obtain ⟨p, hp, -⟩ := hread w hw
    exact ⟨p, hp, status, hstatus,
      (Pattern.isMatch_plain (hplain w hw) hp status.name).mpr hstands, hsuccess⟩

end Settings

/-- **Plain patterns are searched for.** Under a plain pattern for branches a pull request is
rejected for its branch exactly if the pattern does not stand in the name of the branch, whatever
the source answers. Under plain patterns for builds a commit is green exactly if each of them stands
in the name of one of its successful builds. -/
theorem plain_patterns_searched {settings : Settings} {s : Selection}
    (hs : settings.compile = .ok s) :
    (∀ w, settings.branchMatch = some w → IsPlain w.toList →
      ∀ (source : Source σ) (limit : Nat) (state : σ) (c : Candidate),
        ((Operation.resolve c).run source limit s state).outcome = .returned .branchRejected ↔
          ¬ w.toList <:+: c.branch.toList) ∧
    ∀ ws, settings.successfulBuilds = some ws → ws ≠ [] → (∀ w ∈ ws, IsPlain w.toList) →
      (∀ statuses, s.policy.isGreen statuses = true ↔
        ∀ w ∈ ws, ∃ status ∈ statuses, status.state = .successful ∧
          w.toList <:+: status.name.toList) ∧
      ∀ (source : Source σ) (limit : Nat) (state : σ) (commit : String) (statuses : List BuildStatus),
        ((Operation.statuses commit).run source limit s state).outcome = .returned statuses →
        ∃ green, ((Operation.isGreen commit).run source limit s state).outcome = .returned green ∧
          (green = true ↔ ∀ w ∈ ws, ∃ status ∈ statuses, status.state = .successful ∧
            w.toList <:+: status.name.toList) := by
  have hsel := Settings.compile_eq_ok_iff.mp hs
  constructor
  · intro w hw hplain source limit state c
    rw [Operation.resolve_rejected_iff, ← hsel.admits_plain_iff hw hplain, Bool.not_eq_true]
  · intro ws hws hne hplain
    have hgreen := hsel.isGreen_plain_iff hws hne hplain
    refine ⟨hgreen, fun source limit state commit statuses hstatuses => ?_⟩
    exact ⟨_, Operation.isGreen_of_statuses hstatuses, hgreen statuses⟩

/-- Patterns that overlap with themselves, one of them not in ASCII. -/
def overlapping : Settings := ⟨⟨"P", "R"⟩, some "aab", some ["ana", "ßß"], false, none, ""⟩

/-- A server with one commit, whose builds are on two pages. -/
def overlappingBuilds : Script where
  pullRequests := []
  builds := [⟨"c", none, .ok ⟨[⟨"banana", .successful⟩], some 7⟩, false⟩,
    ⟨"c", some 7, .ok ⟨[⟨"aßßß", .successful⟩], none⟩, false⟩]
  commits := []

theorem plain_patterns_searched_overlapping :
    ∃ s, overlapping.compile = .ok s ∧
      ((Operation.resolve ⟨1, "aba", "b", "c"⟩).run Script.source 3 s overlappingBuilds).outcome =
        .returned .branchRejected ∧
      ((Operation.resolve ⟨1, "aaab", "b", "c"⟩).run Script.source 3 s overlappingBuilds).outcome ≠
        .returned .branchRejected ∧
      s.policy.isGreen [⟨"banana", .successful⟩, ⟨"aßßß", .successful⟩] = true ∧
      ∃ green, green = true ∧
        ((Operation.isGreen "c").run Script.source 3 s overlappingBuilds).outcome =
          .returned green := by
  obtain ⟨s, hs, hstatuses⟩ : ∃ s, overlapping.compile = .ok s ∧
      ((Operation.statuses "c").run Script.source 3 s overlappingBuilds).outcome =
        .returned [⟨"banana", .successful⟩, ⟨"aßßß", .successful⟩] :=
    exists_returned (by decide +kernel)
  obtain ⟨hbranch, hbuilds⟩ := plain_patterns_searched (σ := Script) hs
  have hrejected := hbranch "aab" rfl (by decide) Script.source 3 overlappingBuilds
  obtain ⟨hgreen, hrun⟩ := hbuilds ["ana", "ßß"] rfl (by decide) (by decide)
  obtain ⟨green, hreturned, hiff⟩ := hrun Script.source 3 overlappingBuilds "c" _ hstatuses
  refine ⟨s, hs, (hrejected _).mpr (by decide), ?_, (hgreen _).mpr (by decide), green,
    hiff.mpr (by decide), hreturned⟩
  exact fun h => (hrejected _).mp h (by decide)

end OpenPulls
