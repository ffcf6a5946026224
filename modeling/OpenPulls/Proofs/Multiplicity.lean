import OpenPulls.Listing.Script
import OpenPulls.Proofs.Requests

/-!
# How often a pull request is listed

A listing puts its pages one behind the other, and decides about each pull request on them. It does
not remember which numbers it has seen. So a pull request that the server shows on two pages,
because others were opened or closed in between, is listed twice (`list_repeats`).

What holds of every source is that a listing adds no repetition of its own: the numbers of its
entries are some of the numbers on the pages that were read, in their order
(`list_numbers_sublist`).
-/

namespace OpenPulls

variable {σ : Type}

/-- The pull requests on a page, if the exchange read one of theirs. -/
def Exchange.candidates : Exchange → List Candidate
  | ⟨⟨.pullRequests _, _⟩, .ok page⟩ => page.items
  | _ => []

/-- The pull requests on the pages that were read, in order. -/
def candidatesIn (log : List Exchange) : List Candidate := log.flatMap Exchange.candidates

@[simp] theorem candidatesIn_nil : candidatesIn [] = [] := rfl

@[simp] theorem candidatesIn_cons (x : Exchange) (log : List Exchange) :
    candidatesIn (x :: log) = x.candidates ++ candidatesIn log := rfl

@[simp] theorem candidatesIn_append (log log' : List Exchange) :
    candidatesIn (log ++ log') = candidatesIn log ++ candidatesIn log' := List.flatMap_append

theorem Exchange.candidates_of_servesDecision {s : Selection} {c : Candidate} {x : Exchange}
    (h : x.request.resource.ServesDecision s c) : x.candidates = [] := by
  obtain ⟨⟨r, start⟩, answer⟩ := x
  cases r with
  | pullRequests _ => exact h.elim
  | buildStatuses _ => rfl
  | commits _ _ => rfl

section Log

variable {s : Selection} {log : List Exchange}

theorem Decided.candidatesIn {c : Candidate} {result : Resolution} (h : Decided s c log result) :
    candidatesIn log = [] :=
  List.flatMap_eq_nil_iff.mpr fun x hx => Exchange.candidates_of_servesDecision (h.request x hx)

/-- A pull request has one entry or none. -/
theorem Resolution.numbers_entries (c : Candidate) (result : Resolution) :
    ((result.entries c).map (·.number)).Sublist [c.number] := by
  rw [Resolution.entries]
  cases result.accepted? c with
  | none => exact List.nil_sublist _
  | some _ => exact List.Sublist.refl _

/-- The decisions about some pull requests read no page of pull requests, and the numbers of the
entries are some of the numbers of the pull requests. -/
theorem Gathered.numbers {cs : List Candidate} {ps : List ResolvedPullRequest}
    (h : Gathered (DecidedEntries s) cs log ps) :
    candidatesIn log = [] ∧ (ps.map (·.number)).Sublist (cs.map (·.number)) := by
  induction h with
  | nil => exact ⟨rfl, List.nil_sublist _⟩
  | @cons c rest log log' here later hv _ ih =>
    obtain ⟨result, hd, rfl⟩ := hv
    refine ⟨by rw [candidatesIn_append, hd.candidatesIn, ih.1, List.append_nil], ?_⟩
    rw [List.map_append, List.map_cons, ← List.singleton_append]
    exact (result.numbers_entries c).append ih.2

theorem Walked.numbers {repository : Repository} {start : Option UInt64}
    {ps : List ResolvedPullRequest}
    (h : Walked (.pullRequests repository) (DecidedEntries s) start log ps) :
    (ps.map (·.number)).Sublist ((candidatesIn log).map (·.number)) := by
  induction h with
  | @last start page log here _ hg =>
    rw [candidatesIn_cons, hg.numbers.1, List.append_nil]
    exact hg.numbers.2
  | @more start page next log log' here later _ hg _ ih =>
    rw [candidatesIn_cons, candidatesIn_append, hg.numbers.1, List.nil_append, List.map_append,
      List.map_append]
    exact hg.numbers.2.append ih

end Log

/-- **A listing repeats no pull request on its own.** Whatever the source answers, the numbers of
the entries are some of those on the pages that were read, in their order; so if no number stands
there twice, no two entries have the same number. -/
theorem list_numbers_sublist {source : Source σ} {limit : Nat} {s : Selection} {state : σ}
    {ps : List ResolvedPullRequest}
    (h : (Operation.list.run source limit s state).outcome = .returned ps) :
    let listed := (candidatesIn (Operation.list.run source limit s state).log).map (·.number)
    (ps.map (·.number)).Sublist listed ∧ (listed.Nodup → (ps.map (·.number)).Nodup) := by
  have hf := (Session.obeys_list source limit s).follows state
  rw [Operation.run, Operation.perform] at h
  rw [h] at hf
  have hsub := Walked.numbers hf.complete
  exact ⟨hsub, fun hnodup => hnodup.sublist hsub⟩

/-- A selection of everything. -/
def everything : Selection := ⟨⟨"P", "R"⟩, none, .noCheck, false⟩

/-- Pages of pull requests by cursor, with the numbers on each. Each page is answered once. -/
def numbered (pages : List (Option UInt64 × List UInt64 × Option UInt64)) : Script where
  pullRequests := pages.map fun (start, numbers, next) =>
    ⟨(), start, .ok ⟨numbers.map fun n => ⟨n, "x", "refs/heads/x", "a"⟩, next⟩, false⟩
  builds := []
  commits := []

theorem list_numbers_sublist_apart :
    let run := Operation.list.run Script.source 2 everything
      (numbered [(none, [1, 2], some 2), (some 2, [3], none)])
    ∃ ps, run.outcome = .returned ps ∧ ((candidatesIn run.log).map (·.number)).Nodup ∧
      (ps.map (·.number)).Nodup := by
  intro run
  have hreturned : run.outcome = .returned [⟨1, "x", "a"⟩, ⟨2, "x", "a"⟩, ⟨3, "x", "a"⟩] := rfl
  have hnodup : ((candidatesIn run.log).map (·.number)).Nodup := by decide
  exact ⟨_, hreturned, hnodup, (list_numbers_sublist hreturned).2 hnodup⟩

/-- After the first page was read, a pull request was opened, so the second page begins with the
last pull request of the first one. -/
theorem list_repeats :
    ∃ ps, (Operation.list.run Script.source 2 everything
        (numbered [(none, [1, 2], some 2), (some 2, [2, 3], none)])).outcome = .returned ps ∧
      ps.map (·.number) = [1, 2, 2, 3] ∧ ¬ (ps.map (·.number)).Nodup :=
  ⟨_, rfl, rfl, by decide⟩

end OpenPulls
