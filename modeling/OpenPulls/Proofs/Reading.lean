import Mathlib.Data.List.Forall2
import OpenPulls.Proofs.Protocol
import OpenPulls.Proofs.Traversal

/-!
# Reading to the last page

What the two inner loops make of the pages that they are given, whatever cursors these carry.

* `Complete`: the last of some pages has no successor, and every other one has.
* `HandsOut`: a source answers with these pages, one after another, when it is asked at the cursors
  that they name. A cursor may come again with another page, since the source may remember.
* `readingLog`: the requests for some pages, each at the cursor of the page before.

`loops_read_all` says that the loops read such pages to the end, keep all items in order, mark the
commits that are the tip of the branch, and ask for nothing else. The proof takes one page at a time
(`run_silent_walk_last`, `run_silent_walk_more`), for any cursor and state to start from.
-/

namespace OpenPulls

open Listing

variable {σ α β : Type}

/-! ## Pages in turn -/

/-- All pages but the last have a successor. -/
inductive Complete : List (Page α) → Prop
  | last {page : Page α} : page.next = none → Complete [page]
  | more {page : Page α} {next : UInt64} {pages : List (Page α)} :
      page.next = some next → Complete pages → Complete (page :: pages)

/-- From a state on, the source answers with these pages, if it is asked for the first one at
`start` and for each other one at the cursor that the page before names. -/
inductive HandsOut (source : Source σ) (r : Resource) :
    Option UInt64 → σ → List (Page r.Item) → Prop
  | nil (start : Option UInt64) (state : σ) : HandsOut source r start state []
  | cons {start : Option UInt64} {state : σ} {page : Page r.Item} {pages : List (Page r.Item)} :
      (source state ⟨r, start⟩).1 = .ok page →
      HandsOut source r page.next (source state ⟨r, start⟩).2 pages →
      HandsOut source r start state (page :: pages)

/-- The requests for some pages with their answers, each at the cursor that the page before
names. -/
def readingLog (r : Resource) : Option UInt64 → List (Page r.Item) → List Exchange
  | _, [] => []
  | start, page :: pages => ⟨⟨r, start⟩, .ok page⟩ :: readingLog r page.next pages

theorem Complete.ne_nil {pages : List (Page α)} (h : Complete pages) : pages ≠ [] := by
  cases h <;> exact List.cons_ne_nil _ _

/-- The requests are as many as the pages, and no successor of the last page is asked for. -/
theorem Complete.map_request {r : Resource} {pages : List (Page r.Item)} (h : Complete pages)
    (start : Option UInt64) :
    (readingLog r start pages).map Exchange.request =
      (start :: pages.dropLast.map Page.next).map (PageRequest.mk r) := by
  induction h generalizing start with
  | last _ => rfl
  | @more page next pages _ hc ih =>
    rw [List.dropLast_cons_of_ne_nil hc.ne_nil, readingLog, List.map_cons, ih]
    rfl

/-! ## One page -/

section Walk

variable {source : Source σ} {r : Resource} {f : r.Item → β} {start : Option UInt64}
  {state : σ} {page : Page r.Item} {limit : Nat}

/-- Visits that ask for nothing leave the source as it is. -/
theorem run_gather_silent (f : α → β) (as : List α) (state : σ) :
    (gather (fun a => pure [f a]) as : Session σ (List β)).run state =
      ⟨.returned (as.map f), [], state⟩ := by
  induction as with
  | nil => rfl
  | cons a as ih =>
    have hlater : ((gather (fun a => pure [f a]) as >>= fun later => pure ([f a] ++ later) :
        Session σ (List β)).run state) = ⟨.returned (f a :: as.map f), [], state⟩ := by
      rw [Session.run_bind_returned (a := as.map f) (by rw [ih]), ih]
      rfl
    exact hlater

/-- The page without a successor ends the walk. -/
theorem run_silent_walk_last (hp : (source state ⟨r, start⟩).1 = .ok page)
    (hn : page.next = none) :
    (walk (Session.reader source) r (fun a => pure [f a]) (limit + 1) start).run state =
      ⟨.returned (page.items.map f), [⟨⟨r, start⟩, .ok page⟩], (source state ⟨r, start⟩).2⟩ := by
  show (Session.ask source ⟨r, start⟩ >>= _).run state = _
  rw [Session.run_ask_bind_ok hp, Session.run_bind_returned (by rw [run_gather_silent]),
    run_gather_silent]
  simp only [hn]
  rfl

/-- After any other page the walk goes on at the cursor of the page. -/
theorem run_silent_walk_more (hp : (source state ⟨r, start⟩).1 = .ok page) {next : UInt64}
    (hn : page.next = some next) {later : List β} {log : List Exchange} {last : σ}
    (hrest : (walk (Session.reader source) r (fun a => pure [f a]) limit (some next)).run
      (source state ⟨r, start⟩).2 = ⟨.returned later, log, last⟩) :
    (walk (Session.reader source) r (fun a => pure [f a]) (limit + 1) start).run state =
      ⟨.returned (page.items.map f ++ later), ⟨⟨r, start⟩, .ok page⟩ :: log, last⟩ := by
  show (Session.ask source ⟨r, start⟩ >>= _).run state = _
  rw [Session.run_ask_bind_ok hp, Session.run_bind_returned (by rw [run_gather_silent]),
    run_gather_silent]
  simp only [hn]
  rw [Session.run_bind_returned (by rw [hrest]), hrest]
  show Run.mk _ (_ :: (log ++ [])) _ = _
  rw [List.append_nil]
  rfl

/-- **A walk reads the pages that it is handed out to the last one.** It gathers their items in
order, and its log holds the request for each of them. -/
theorem run_silent_walk (f : r.Item → β) {pages : List (Page r.Item)} (hc : Complete pages)
    (h : HandsOut source r start state pages) :
    ∃ last, (walk (Session.reader source) r (fun a => pure [f a]) pages.length start).run state =
      ⟨.returned ((itemsOf pages).map f), readingLog r start pages, last⟩ := by
  induction hc generalizing start state with
  | last hn =>
    obtain _ | ⟨hp, -⟩ := h
    rw [itemsOf_cons, itemsOf_nil, List.append_nil]
    exact ⟨_, run_silent_walk_last hp hn⟩
  | more hn _ ih =>
    obtain _ | ⟨hp, hrest⟩ := h
    rw [hn] at hrest
    obtain ⟨last, hlast⟩ := ih hrest
    rw [itemsOf_cons, List.map_append, readingLog, hn]
    exact ⟨last, run_silent_walk_more hp hn hlast⟩

end Walk

/-! ## The inner loops -/

section Loops

variable {source : Source σ} {s : Selection} {state : σ}

/-- What is seen of a run that has read pages to the last one. -/
theorem Complete.exists_ends {o : Operation} {r : Resource} {pages : List (Page r.Item)}
    {limit : Nat} {result : o.Result} {last : σ} (hc : Complete pages)
    (h : o.run source limit s state = ⟨.returned result, readingLog r none pages, last⟩) :
    ∃ run, o.Ends source s state run ∧ run.outcome = .returned result ∧
      run.log.length = pages.length ∧
      run.log.map Exchange.request =
        (none :: pages.dropLast.map Page.next).map (PageRequest.mk r) := by
  have hrequests := hc.map_request none
  have hpos : 0 < pages.length := List.length_pos_of_ne_nil hc.ne_nil
  refine ⟨⟨.returned result, readingLog r none pages, last⟩, ⟨nofun, limit, h⟩, rfl, ?_, hrequests⟩
  have hlength := congrArg List.length hrequests
  simp only [List.length_map, List.length_cons, List.length_dropLast] at hlength
  show (readingLog r none pages).length = pages.length
  omega

/-- **The inner loops lose and invent nothing.** Let a source hand out pages of which only the last
has no successor, with any cursors. The statuses of a commit are then the items of the pages in
order. The commits of a pull request are those of the pages in order, with their names, and marked
exactly if they were marked by the source or are the head of the pull request under either name.
Each loop asks once for each page, at the cursors of the pages in order. -/
theorem loops_read_all (source : Source σ) (s : Selection) (state : σ) :
    (∀ (commit : String) (pages : List (Page BuildStatus)), Complete pages →
      HandsOut source (.buildStatuses commit) none state pages →
      ∃ run, (Operation.statuses commit).Ends source s state run ∧
        run.outcome = .returned (itemsOf pages) ∧ run.log.length = pages.length ∧
        run.log.map Exchange.request =
          (none :: pages.dropLast.map Page.next).map (PageRequest.mk (.buildStatuses commit))) ∧
    (∀ (c : Candidate) (pages : List (Page Commit)), Complete pages →
      HandsOut source (.commits s.repository c.number) none state pages →
      ∃ commits, List.Forall₂ (fun k k' => k'.id = k.id ∧ (k'.isTip = true ↔ k.IsTipOf c))
          (itemsOf pages) commits ∧
        ∃ run, (Operation.history c).Ends source s state run ∧
          run.outcome = .returned commits ∧ run.log.length = pages.length ∧
          run.log.map Exchange.request = (none :: pages.dropLast.map Page.next).map
            (PageRequest.mk (.commits s.repository c.number))) := by
  refine ⟨fun commit pages hc h => ?_, fun c pages hc h => ?_⟩
  · obtain ⟨last, hrun⟩ := run_silent_walk id hc h
    rw [List.map_id] at hrun
    exact hc.exists_ends (o := .statuses commit) (s := s) hrun
  · obtain ⟨last, hrun⟩ := run_silent_walk (Commit.markTip c) hc h
    refine ⟨(itemsOf pages).map (Commit.markTip c), ?_,
      hc.exists_ends (o := .history c) (s := s) hrun⟩
    rw [List.forall₂_map_right_iff, List.forall₂_same]
    exact fun k _ => ⟨rfl, k.isTip_markTip c⟩

/-- The source that looks at nothing but how many requests there were: it hands out these pages of
build statuses, and these pages of commits. -/
def counting (builds : List (Page BuildStatus)) (commits : List (Page Commit)) : Source Nat :=
  fun n r =>
    let missing : Failure := ⟨r.resource, .other "no page"⟩
    (match r with
      | ⟨.pullRequests _, _⟩ => .error missing
      | ⟨.buildStatuses _, _⟩ => (builds[n]?.map Except.ok).getD (.error missing)
      | ⟨.commits _ _, _⟩ => (commits[n]?.map Except.ok).getD (.error missing), n + 1)

/-- Cursors that come again, go back to zero and are as large as can be. -/
theorem loops_read_all_repeating :
    let builds : List (Page BuildStatus) :=
      [⟨[⟨"a", .failed⟩], some 7⟩, ⟨[], some 7⟩, ⟨[⟨"b", .successful⟩, ⟨"a", .failed⟩], some 0⟩,
        ⟨[⟨"c", .other⟩], some 18446744073709551615⟩, ⟨[], none⟩]
    let commits : List (Page Commit) :=
      [⟨[⟨"h", false⟩, ⟨"x", true⟩], some 0⟩, ⟨[⟨"y", false⟩, ⟨"h", false⟩], some 0⟩,
        ⟨[⟨"refs/heads/b", false⟩, ⟨"y", false⟩], none⟩]
    let source := counting builds commits
    let s : Selection := ⟨⟨"P", "R"⟩, none, .allGreen, true⟩
    let c : Candidate := ⟨5, "b", "refs/heads/b", "h"⟩
    Complete builds ∧ HandsOut source (.buildStatuses "k") none 0 builds ∧
    Complete commits ∧ HandsOut source (.commits s.repository c.number) none 0 commits ∧
    (∃ run, (Operation.statuses "k").Ends source s 0 run ∧
      run.outcome = .returned
        [⟨"a", .failed⟩, ⟨"b", .successful⟩, ⟨"a", .failed⟩, ⟨"c", .other⟩] ∧
      run.log.map (·.request.start) =
        [none, some 7, some 7, some 0, some 18446744073709551615]) ∧
    ∃ run, (Operation.history c).Ends source s 0 run ∧
      run.outcome = .returned [⟨"h", true⟩, ⟨"x", true⟩, ⟨"y", false⟩, ⟨"h", true⟩,
        ⟨"refs/heads/b", true⟩, ⟨"y", false⟩] ∧
      run.log.map (·.request.start) = [none, some 0, some 0] := by
  intro builds commits source s c
  have hbuilds : Complete builds := .more rfl (.more rfl (.more rfl (.more rfl (.last rfl))))
  have hcommits : Complete commits := .more rfl (.more rfl (.last rfl))
  have hands : HandsOut source (.buildStatuses "k") none 0 builds :=
    .cons rfl (.cons rfl (.cons rfl (.cons rfl (.cons rfl (.nil _ _)))))
  have hands' : HandsOut source (.commits s.repository c.number) none 0 commits :=
    .cons rfl (.cons rfl (.cons rfl (.nil _ _)))
  obtain ⟨hstatuses, hhistory⟩ := loops_read_all source s 0
  refine ⟨hbuilds, hands, hcommits, hands', ?_, ?_⟩
  · obtain ⟨run, hends, hrun, -, hlog⟩ := hstatuses "k" builds hbuilds hands
    refine ⟨run, hends, hrun, ?_⟩
    have hstarts := congrArg (List.map PageRequest.start) hlog
    rwa [List.map_map] at hstarts
  · obtain ⟨marked, hmarked, run, hends, hrun, -, hlog⟩ := hhistory c commits hcommits hands'
    have hmark : List.Forall₂ (fun k k' => k.markTip c = k') (itemsOf commits) marked := by
      refine hmarked.imp fun k k' ⟨hid, htip⟩ => ?_
      rw [← k.isTip_markTip c, ← Bool.eq_iff_iff] at htip
      cases k'
      cases hid
      cases htip
      rfl
    rw [← List.forall₂_map_left_iff, List.forall₂_eq_eq_eq] at hmark
    have hstarts := congrArg (List.map PageRequest.start) hlog
    rw [List.map_map] at hstarts
    exact ⟨run, hends, by rw [hrun, ← hmark]; rfl, hstarts⟩

end Loops

end OpenPulls
