import OpenPulls.Proofs.Requests

/-!
# The filter for branches

To list with a pattern for branches is to list without one from a source that does not show the
other pull requests.

* `Source.showing keep`: the source with only those pull requests on its pages that `keep` selects.
  Cursors, build statuses and commits are as they were, and so are failures.
* `Mirrors keep`: a session on a source and one on the source that hides pull requests run alike,
  and their logs differ only by what is hidden.
* `list_branch_eq_showing`: the main statement. The filtered listing and the listing of what the
  source shows end alike and make the same requests, and a pull request of another branch is
  rejected without any request.

The walk over the pages is the only place where hidden pull requests occur, so the proof compares
the two walks page by page (`mirrors_walk`). What happens for a pull request that is shown is the
same on both sides, because a decision asks for no page of pull requests (`resolve_showing`).
-/

namespace OpenPulls

open Listing

variable {σ α β : Type} {keep : Candidate → Bool}

/-! ## Hiding pull requests -/

/-- The page with only those items that `keep` selects, and with its cursor. -/
def Page.filter (keep : α → Bool) (page : Page α) : Page α :=
  { page with items := page.items.filter keep }

/-- A page of a resource with only those pull requests that `keep` selects. -/
def Resource.showing (keep : Candidate → Bool) : (r : Resource) → Page r.Item → Page r.Item
  | .pullRequests _, page => page.filter keep
  | .buildStatuses _, page => page
  | .commits _ _, page => page

/-- The source with only those pull requests on its pages that `keep` selects. -/
def Source.showing (keep : Candidate → Bool) (source : Source σ) : Source σ := fun state r =>
  ((source state r).1.map (r.resource.showing keep), (source state r).2)

/-- The exchange with only those pull requests on its page that `keep` selects. -/
def Exchange.showing (keep : Candidate → Bool) (x : Exchange) : Exchange :=
  ⟨x.request, x.answer.map (x.request.resource.showing keep)⟩

@[simp] theorem Exchange.request_showing (x : Exchange) : (x.showing keep).request = x.request :=
  rfl

theorem Resource.showing_of_servesDecision {s : Selection} {c : Candidate} {r : Resource}
    (h : r.ServesDecision s c) (page : Page r.Item) : r.showing keep page = page := by
  cases r with
  | pullRequests _ => exact h.elim
  | buildStatuses _ => rfl
  | commits _ _ => rfl

theorem Source.showing_of_servesDecision {s : Selection} {c : Candidate} (source : Source σ)
    (state : σ) {r : PageRequest} (h : r.resource.ServesDecision s c) :
    source.showing keep state r = source state r := by
  have hid : r.resource.showing keep = id := funext (Resource.showing_of_servesDecision h)
  rw [Source.showing, hid, Except.map_id, id]

theorem Exchange.showing_of_servesDecision {s : Selection} {c : Candidate} {x : Exchange}
    (h : x.request.resource.ServesDecision s c) : x.showing keep = x := by
  have hid : x.request.resource.showing keep = id := funext (Resource.showing_of_servesDecision h)
  rw [Exchange.showing, hid, Except.map_id, id]

/-! ## Sessions on both sources -/

namespace Session

theorem bind_pure (t : Session σ α) : (t >>= fun a => pure a) = t := by
  funext state
  show (t >>= fun a => pure a).run state = t.run state
  cases h : (t.run state).outcome with
  | returned a =>
    rw [run_bind_returned h]
    show (⟨.returned a, (t.run state).log ++ [], (t.run state).state⟩ : Run σ α) = t.run state
    rw [List.append_nil, ← h]
  | failed f => rw [run_bind_failed h, ← h]
  | unfinished => rw [run_bind_unfinished h, ← h]

end Session

/-- The second session runs as the first one does, but does not see what is hidden. -/
def Mirrors (keep : Candidate → Bool) (t t' : Session σ α) : Prop :=
  ∀ state, t'.run state = { t.run state with log := (t.run state).log.map (Exchange.showing keep) }

namespace Mirrors

theorem result (a : α) : Mirrors keep (pure a : Session σ α) (pure a) := fun _ => rfl

theorem unfinished : Mirrors keep (Session.unfinished : Session σ α) Session.unfinished :=
  fun _ => rfl

theorem bind {t t' : Session σ α} {next next' : α → Session σ β} (ht : Mirrors keep t t')
    (hnext : ∀ a, Mirrors keep (next a) (next' a)) : Mirrors keep (t >>= next) (t' >>= next') := by
  intro state
  cases h : (t.run state).outcome with
  | returned a =>
    have h' : (t'.run state).outcome = .returned a := by rw [ht state, h]
    rw [Session.run_bind_returned h, Session.run_bind_returned h', ht state, hnext a]
    simp only [List.map_append]
  | failed f =>
    have h' : (t'.run state).outcome = .failed f := by rw [ht state, h]
    rw [Session.run_bind_failed h, Session.run_bind_failed h', ht state]
  | unfinished =>
    have h' : (t'.run state).outcome = .unfinished := by rw [ht state, h]
    rw [Session.run_bind_unfinished h, Session.run_bind_unfinished h', ht state]

/-- A page is read on both sides, and the second goes on without what is hidden. -/
theorem ask_bind {source : Source σ} {r : PageRequest} {next next' : Page r.Item → Session σ β}
    (hnext : ∀ page, Mirrors keep (next page) (next' (r.resource.showing keep page))) :
    Mirrors keep (Session.ask source r >>= next)
      (Session.ask (source.showing keep) r >>= next') := by
  intro state
  cases h : (source state r).1 with
  | error f =>
    have h' : (source.showing keep state r).1 = .error f := by rw [Source.showing, h]; rfl
    rw [Session.run_ask_bind_error h, Session.run_ask_bind_error h']
    rfl
  | ok page =>
    have h' : (source.showing keep state r).1 = .ok (r.resource.showing keep page) := by
      rw [Source.showing, h]; rfl
    rw [Session.run_ask_bind_ok h, Session.run_ask_bind_ok h', hnext page]
    rfl

end Mirrors

/-- Items that are visited without a request and without a result may as well be left out. -/
theorem mirrors_gather {visit visit' : Candidate → Session σ (List β)}
    (hkept : ∀ c, keep c = true → Mirrors keep (visit c) (visit' c))
    (hhidden : ∀ c, keep c = false → visit c = pure []) (cs : List Candidate) :
    Mirrors keep (gather visit cs) (gather visit' (cs.filter keep)) := by
  induction cs with
  | nil => exact .result []
  | cons c cs ih =>
    cases hc : keep c with
    | true =>
      rw [List.filter_cons_of_pos hc]
      exact (hkept c hc).bind fun here => ih.bind fun later => .result (here ++ later)
    | false =>
      have hskip : gather visit (c :: cs) = gather visit cs := by
        rw [gather, hhidden c hc]
        exact Session.bind_pure _
      rw [List.filter_cons_of_neg (by simp [hc]), hskip]
      exact ih

theorem mirrors_walk {source : Source σ} {repository : Repository}
    {visit visit' : Candidate → Session σ (List β)}
    (hkept : ∀ c, keep c = true → Mirrors keep (visit c) (visit' c))
    (hhidden : ∀ c, keep c = false → visit c = pure []) (limit : Nat) (start : Option UInt64) :
    Mirrors keep (walk (Session.reader source) (.pullRequests repository) visit limit start)
      (walk (Session.reader (source.showing keep)) (.pullRequests repository) visit' limit
        start) := by
  induction limit generalizing start with
  | zero => exact .unfinished
  | succ limit ih =>
    refine Mirrors.ask_bind fun page => ?_
    obtain ⟨items, next⟩ := page
    refine (mirrors_gather hkept hhidden items).bind fun here => ?_
    -- The hidden pull requests leave the cursor of the page alone.
    cases next with
    | none => exact .result here
    | some next => exact (ih (some next)).bind fun later => .result (here ++ later)

/-! ## Decisions -/

section Decisions

variable {s : Selection} {p : Pattern} {c : Candidate}

/-- A pull request of another branch is rejected without a request. -/
theorem resolve_of_not_match {m : Type → Type} [Monad m] (reader : PageReader m) (limit : Nat)
    (h : p.isMatch c.branch = false) :
    resolve reader limit { s with branch := some p } c = pure .branchRejected := by
  simp [resolve, Selection.admits, h]

/-- For a pull request of a branch that is asked for, the pattern makes no difference. -/
theorem resolve_of_match {m : Type → Type} [Monad m] (reader : PageReader m) (limit : Nat)
    (h : p.isMatch c.branch = true) :
    resolve reader limit { s with branch := some p } c =
      resolve reader limit { s with branch := none } c := by
  simp [resolve, Selection.admits, h]

/-- A decision sees no pages of pull requests. -/
theorem resolve_showing (source : Source σ) (limit : Nat) (s : Selection) (c : Candidate) :
    Mirrors keep (resolve (Session.reader source) limit s c)
      (resolve (Session.reader (source.showing keep)) limit s c) := by
  intro state
  have hlog := Operation.resolve_request source limit s c state
  have hsame : (Operation.resolve c).run (source.showing keep) limit s state =
      (Operation.resolve c).run source limit s state :=
    Operation.run_agree (P := fun r => r.resource.ServesDecision s c)
      (fun state _ => source.showing_of_servesDecision state) hlog
  have hmap : ((Operation.resolve c).run source limit s state).log.map (Exchange.showing keep) =
      ((Operation.resolve c).run source limit s state).log :=
    List.map_congr_left (fun x hx => Exchange.showing_of_servesDecision (hlog x hx)) |>.trans
      (List.map_id _)
  show (Operation.resolve c).run (source.showing keep) limit s state =
    { (Operation.resolve c).run source limit s state with
      log := ((Operation.resolve c).run source limit s state).log.map (Exchange.showing keep) }
  rw [hsame, hmap]

end Decisions

/-- **The filter for branches acts as if the other pull requests were not there.** The listing with
the pattern and the listing without one of what the source shows end alike and leave the source in
the same state. They make the same requests, and the answers differ only by what is hidden. And a
pull request of another branch is rejected without any request, so its builds and commits play no
part. -/
theorem list_branch_eq_showing (source : Source σ) (limit : Nat) (s : Selection) (p : Pattern)
    (state : σ) :
    let keep := fun c : Candidate => p.isMatch c.branch
    let filtered := Operation.list.run source limit { s with branch := some p } state
    let shown := Operation.list.run (source.showing keep) limit { s with branch := none } state
    shown.outcome = filtered.outcome ∧ shown.state = filtered.state ∧
    shown.log.map (·.request) = filtered.log.map (·.request) ∧
    shown.log = filtered.log.map (Exchange.showing keep) ∧
    ∀ c state', p.isMatch c.branch = false →
      (Operation.resolve c).run source limit { s with branch := some p } state' =
        ⟨.returned .branchRejected, [], state'⟩ := by
  intro keep filtered shown
  have hkept (c : Candidate) (hc : keep c = true) :
      Mirrors keep (entries (Session.reader source) limit { s with branch := some p } c)
        (entries (Session.reader (source.showing keep)) limit { s with branch := none } c) := by
    rw [entries, resolve_of_match _ limit hc]
    exact (resolve_showing source limit { s with branch := none } c).bind fun _ => .result _
  have hhidden (c : Candidate) (hc : keep c = false) :
      entries (Session.reader source) limit { s with branch := some p } c = pure [] := by
    rw [entries, resolve_of_not_match _ limit hc]
    rfl
  have hrun : shown = { filtered with log := filtered.log.map (Exchange.showing keep) } :=
    mirrors_walk hkept hhidden limit none state
  refine ⟨by rw [hrun], by rw [hrun], ?_, by rw [hrun], fun c state' hc => ?_⟩
  · rw [hrun, List.map_map]
    rfl
  · have hresolve := resolve_of_not_match (s := s) (Session.reader source) limit hc
    exact congrArg (·.run state') hresolve

end OpenPulls
