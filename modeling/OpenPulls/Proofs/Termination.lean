import Mathlib.Data.FinEnum
import Mathlib.Order.Filter.AtTopBot.Finite
import OpenPulls.Proofs.Requests
import OpenPulls.Proofs.Steps
import OpenPulls.Proofs.Traversal

/-!
# Whether a loop over pages ends

The loops go from page to page with the cursors of the server, and nothing in them counts. What
makes one end is that there are finitely many cursors: on a source without a memory, a cursor that
comes up again leads in a circle, and one that never does is among `2 ^ 64`.

* `GoesOn`: the step from the cursor of a page to that of the next page.
* `Paces`: a run asks for the pages that the steps lead to, up to a limit (`walk_paces`).
* `Operation.EndsExactly`: how an operation ends or does not end (`endsExactly_of_paces`).

`loops_end_exactly` says so of the build statuses of a commit, of the commits of a pull request, and
of a listing of whose decisions each one ends.
-/

namespace OpenPulls

open Listing

variable {σ α β : Type}

/-! ## Cursors -/

/-- A loop goes on from the page at a cursor to the next page, when it gets past all items of the
page. -/
def GoesOn (answer : Option UInt64 → Except Failure (Page α)) (Passes : α → Prop)
    (cursor cursor' : Option UInt64) : Prop :=
  ∃ page next, answer cursor = .ok page ∧ (∀ a ∈ page.items, Passes a) ∧ page.next = some next ∧
    cursor' = some next

section GoesOn

variable {answer : Option UInt64 → Except Failure (Page α)} {Passes : α → Prop}
  {cursor cursor' : Option UInt64} {page : Page α}

theorem goesOn_rightUnique : Relator.RightUnique (GoesOn answer Passes) := by
  rintro cursor b c ⟨page, next, ha, -, hn, rfl⟩ ⟨page', next', ha', -, hn', rfl⟩
  rw [ha] at ha'
  cases ha'
  rw [hn] at hn'
  exact hn'

theorem not_goesOn_of_error {f : Failure} (h : answer cursor = .error f) :
    ¬ GoesOn answer Passes cursor cursor' := by
  rintro ⟨page, next, ha, -⟩
  rw [h] at ha
  cases ha

theorem goesOn_iff (h : answer cursor = .ok page) :
    GoesOn answer Passes cursor cursor' ↔
      (∀ a ∈ page.items, Passes a) ∧ ∃ next, page.next = some next ∧ cursor' = some next := by
  constructor
  · rintro ⟨page', next, ha, hp, hn⟩
    rw [h] at ha
    cases ha
    exact ⟨hp, next, hn⟩
  · rintro ⟨hp, next, hn⟩
    exact ⟨page, next, h, hp, hn⟩

end GoesOn

/-! ## Logs -/

/-- The cursors of the requests for a resource, in the order of the log. -/
def cursorsFor (r : Resource) (log : List Exchange) : List (Option UInt64) :=
  (log.filter (·.request.resource = r)).map (·.request.start)

theorem cursorsFor_append (r : Resource) (log log' : List Exchange) :
    cursorsFor r (log ++ log') = cursorsFor r log ++ cursorsFor r log' := by
  rw [cursorsFor, List.filter_append, List.map_append]
  rfl

theorem cursorsFor_cons (r : Resource) (start : Option UInt64)
    (answer : Except Failure (Page r.Item)) (log : List Exchange) :
    cursorsFor r (⟨⟨r, start⟩, answer⟩ :: log) = start :: cursorsFor r log := by
  rw [cursorsFor, List.filter_cons_of_pos (by simp)]
  rfl

theorem cursorsFor_eq_nil {r : Resource} {log : List Exchange}
    (h : ∀ x ∈ log, x.request.resource ≠ r) : cursorsFor r log = [] := by
  rw [cursorsFor, List.filter_eq_nil_iff.mpr fun x hx => by simp [h x hx], List.map_nil]

/-- The run asks for the pages of a resource at the cursors that the steps lead to from `start`, at
most `limit` of them, and gives up if there is one more to ask for. -/
structure Paces (r : Resource) (Step : Option UInt64 → Option UInt64 → Prop)
    (start : Option UInt64) (limit : Nat) (run : Run σ α) : Prop where
  asks : ∀ i cursor,
    (cursorsFor r run.log)[i]? = some cursor ↔ i < limit ∧ After Step i start cursor
  unfinished_iff : run.outcome = .unfinished ↔ ∃ cursor, After Step limit start cursor

namespace Paces

variable {r : Resource} {Step : Option UInt64 → Option UInt64 → Prop}
  {start next : Option UInt64} {limit : Nat} {run : Run σ α} {run' : Run σ β}

theorem giveUp (state : σ) : Paces r Step start 0 (⟨.unfinished, [], state⟩ : Run σ α) where
  asks i cursor := by simp [cursorsFor]
  unfinished_iff := ⟨fun _ => ⟨start, .refl start⟩, fun _ => rfl⟩

/-- A run that reads one page, from which no step leads on. -/
theorem stop (hstep : ∀ cursor, ¬ Step start cursor) (hlog : cursorsFor r run.log = [start])
    (hne : run.outcome ≠ .unfinished) : Paces r Step start (limit + 1) run where
  asks i cursor := by
    rw [hlog]
    constructor
    · intro h
      obtain ⟨hi, rfl⟩ := List.getElem?_eq_some_iff.mp h
      obtain rfl : i = 0 := Nat.lt_one_iff.mp hi
      exact ⟨Nat.succ_pos limit, .refl _⟩
    · rintro ⟨-, _ | ⟨hs, -⟩⟩
      · rfl
      · exact absurd hs (hstep _)
  unfinished_iff := by
    refine ⟨fun h => absurd h hne, ?_⟩
    rintro ⟨cursor, _ | ⟨hs, -⟩⟩
    exact absurd hs (hstep _)

/-- A run that reads one page, and then does what another run does from the next page on. -/
theorem more (hdet : Relator.RightUnique Step) (hs : Step start next)
    (hlog : cursorsFor r run.log = start :: cursorsFor r run'.log)
    (ho : run.outcome = .unfinished ↔ run'.outcome = .unfinished)
    (h : Paces r Step next limit run') : Paces r Step start (limit + 1) run where
  asks i cursor := by
    rw [hlog]
    cases i with
    | zero =>
      rw [List.getElem?_cons_zero, Option.some.injEq]
      constructor
      · rintro rfl
        exact ⟨Nat.succ_pos limit, .refl _⟩
      · rintro ⟨-, ⟨⟩⟩
        rfl
    | succ i =>
      rw [List.getElem?_cons_succ, h.asks, Nat.add_lt_add_iff_right]
      refine and_congr_right fun _ => ⟨.cons hs, ?_⟩
      rintro (_ | ⟨hs', ha⟩)
      rwa [hdet hs hs']
  unfinished_iff := by
    rw [ho, h.unfinished_iff]
    refine exists_congr fun cursor => ⟨.cons hs, ?_⟩
    rintro (_ | ⟨hs', ha⟩)
    rwa [hdet hs hs']

end Paces

/-! ## Walks -/

/-- The item is on a page that is reached, and all items before it on that page are got past. -/
def OnTheWay (answer : Option UInt64 → Except Failure (Page α)) (Passes : α → Prop)
    (start : Option UInt64) (a : α) : Prop :=
  ∃ n cursor page before after, After (GoesOn answer Passes) n start cursor ∧
    answer cursor = .ok page ∧ page.items = before ++ a :: after ∧ ∀ b ∈ before, Passes b

theorem OnTheWay.cons {answer : Option UInt64 → Except Failure (Page α)} {Passes : α → Prop}
    {start next : Option UInt64} {a : α} (hs : GoesOn answer Passes start next)
    (h : OnTheWay answer Passes next a) : OnTheWay answer Passes start a := by
  obtain ⟨n, cursor, page, before, after, ha, rest⟩ := h
  exact ⟨n + 1, cursor, page, before, after, .cons hs ha, rest⟩

/-- There are finitely many pages to reach, since there are finitely many cursors. -/
theorem finite_onTheWay (answer : Option UInt64 → Except Failure (Page α)) (Passes : α → Prop)
    (start : Option UInt64) : {a | OnTheWay answer Passes start a}.Finite := by
  have hpages : (⋃ cursor, {a | ∃ page, answer cursor = .ok page ∧ a ∈ page.items}).Finite := by
    refine Set.finite_iUnion fun cursor => ?_
    cases ha : answer cursor with
    | error f => simp
    | ok page => simp [page.items.finite_toSet]
  refine hpages.subset ?_
  rintro a ⟨n, cursor, page, before, after, -, ha, hsplit, -⟩
  exact Set.mem_iUnion.mpr ⟨cursor, page, ha, by simp [hsplit]⟩

/-- Items are visited up to the first that is not got past. -/
theorem gather_passes {visit : α → Outcome (List β)} {Passes : α → Prop} {as : List α}
    (h : ∀ before a after, as = before ++ a :: after → (∀ b ∈ before, Passes b) →
      (∃ bs, visit a = .returned bs) ∧ Passes a ∨ (∃ f, visit a = .failed f) ∧ ¬ Passes a) :
    (∃ bs, gather visit as = .returned bs) ∧ (∀ a ∈ as, Passes a) ∨
      (∃ f, gather visit as = .failed f) ∧ ¬ ∀ a ∈ as, Passes a := by
  induction as with
  | nil => exact .inl ⟨⟨[], rfl⟩, List.forall_mem_nil _⟩
  | cons a as ih =>
    rcases h [] a as rfl (List.forall_mem_nil _) with ⟨⟨here, ha⟩, hp⟩ | ⟨⟨f, ha⟩, hp⟩
    · have hrest := ih fun before b after hsplit hb =>
        h (a :: before) b after (congrArg (a :: ·) hsplit) (List.forall_mem_cons.mpr ⟨hp, hb⟩)
      rcases hrest with ⟨⟨later, hl⟩, hps⟩ | ⟨⟨f, hf⟩, hps⟩
      · exact .inl ⟨⟨here ++ later, by simp [gather, ha, hl]⟩, List.forall_mem_cons.mpr ⟨hp, hps⟩⟩
      · refine .inr ⟨⟨f, by simp [gather, ha, hf]⟩, fun hall => ?_⟩
        exact hps (List.forall_mem_cons.mp hall).2
    · refine .inr ⟨⟨f, by simp [gather, ha]⟩, fun hall => ?_⟩
      exact hp (List.forall_mem_cons.mp hall).1

section Walk

variable {source : Source σ} {answers : Answers} {r : Resource}

/-- The requests that the items of a page cause are not for the resource itself. -/
theorem gather_log {visit : α → Session σ (List β)}
    (h : ∀ a state, ∀ x ∈ ((visit a).run state).log, x.request.resource ≠ r) (as : List α)
    (state : σ) : ∀ x ∈ ((gather visit as).run state).log, x.request.resource ≠ r := by
  induction as generalizing state with
  | nil => exact List.forall_mem_nil _
  | cons a as ih =>
    exact Session.forall_log_bind (h a)
      (fun here => Session.forall_log_bind ih fun _ _ => List.forall_mem_nil _) state

/-- **A walk asks for the pages that the cursors lead to**, as long as it gets past their items. -/
theorem walk_paces (h : source.AnswersBy answers) {visit : r.Item → Session σ (List β)}
    (out : r.Item → Outcome (List β)) {Passes : r.Item → Prop}
    (hlog : ∀ a state, ∀ x ∈ ((visit a).run state).log, x.request.resource ≠ r)
    (hout : ∀ a state, ((visit a).run state).outcome = out a) {start : Option UInt64}
    (hpass : ∀ a, OnTheWay (answers.pages r) Passes start a →
      (∃ bs, out a = .returned bs) ∧ Passes a ∨ (∃ f, out a = .failed f) ∧ ¬ Passes a)
    (limit : Nat) (state : σ) :
    Paces r (GoesOn (answers.pages r) Passes) start limit
      ((walk (Session.reader source) r visit limit start).run state) := by
  induction limit generalizing start state with
  | zero => exact Paces.giveUp state
  | succ limit ih =>
    have hasked : (source state ⟨r, start⟩).1 = answers.pages r start := h state ⟨r, start⟩
    show Paces _ _ _ _ ((Session.ask source ⟨r, start⟩ >>= _).run state)
    cases ha : answers.pages r start with
    | error f =>
      rw [ha] at hasked
      rw [Session.run_ask_bind_error hasked]
      exact .stop (fun _ => not_goesOn_of_error ha) (cursorsFor_cons r start _ []) nofun
    | ok page =>
      rw [ha] at hasked
      rw [Session.run_ask_bind_ok hasked]
      generalize (source state ⟨r, start⟩).2 = state₁
      have hitems := gather_passes fun before a after (hsplit : page.items = _) hb =>
        hpass a ⟨0, start, page, before, after, .refl start, ha, hsplit, hb⟩
      have hrun := (uniform_outcome h).gather hout page.items state₁
      have hown := cursorsFor_eq_nil (gather_log hlog page.items state₁)
      rcases hitems with ⟨⟨here, hg⟩, hps⟩ | ⟨⟨f, hg⟩, hps⟩
      · -- All items were got past, so whether there is a next page decides.
        rw [hg] at hrun
        rw [Session.run_bind_returned hrun]
        generalize ((gather visit page.items).run state₁).state = state₂
        cases hn : page.next with
        | none =>
          refine .stop (fun cursor hs => ?_) ?_ nofun
          · obtain ⟨-, next, hnext, -⟩ := (goesOn_iff ha).mp hs
            rw [hn] at hnext
            cases hnext
          · rw [cursorsFor_cons, cursorsFor_append, hown]
            rfl
        | some next =>
          have hs : GoesOn (answers.pages r) Passes start (some next) :=
            (goesOn_iff ha).mpr ⟨hps, next, hn, rfl⟩
          refine .more goesOn_rightUnique hs ?_ ?_ (ih (fun a hw => hpass a (hw.cons hs)) state₂)
          · rw [cursorsFor_cons, cursorsFor_append, hown, List.nil_append,
              (Session.run_bind_pure _ _ _).1]
          · exact (Session.run_bind_pure _ _ _).2
      · -- The walk ends with the item that was not got past.
        rw [hg] at hrun
        rw [Session.run_bind_failed hrun]
        refine .stop (fun cursor hs => hps ((goesOn_iff ha).mp hs).1) ?_ nofun
        rw [cursorsFor_cons, hown]

end Walk

/-! ## Ends -/

/-- How an operation ends, or does not end, that asks for one page of a resource after the other. -/
structure Operation.EndsExactly (o : Operation) (source : Source σ) (s : Selection) (state : σ)
    (r : Resource) (Step : Option UInt64 → Option UInt64 → Prop) : Prop where
  /-- The operation ends if and only if no cursor comes up a second time. -/
  ends_iff : (∃ run, o.Ends source s state run) ↔ NeverReturns Step none
  /-- If it ends, it has asked for the first page and then for a page at each cursor that the steps
  lead to, in order, and these cursors are all different. -/
  once : ∀ run, o.Ends source s state run → ∃ cursors : List UInt64,
    cursorsFor r run.log = none :: cursors.map some ∧ cursors.Nodup ∧
      ∀ i cursor, cursors[i]? = some cursor ↔ After Step (i + 1) none (some cursor)
  /-- If it does not end, the cursors repeat from some page on, and within every large limit it asks
  for as many pages as it may, at these cursors, and has no result. -/
  circle : (¬ ∃ run, o.Ends source s state run) →
    ∃ (cursor : Nat → Option UInt64) (first period : Nat), 0 < period ∧
      (∀ n, After Step n none (cursor n)) ∧ (∀ n, first ≤ n → cursor (n + period) = cursor n) ∧
      ∀ᶠ limit in Filter.atTop, (o.run source limit s state).outcome = .unfinished ∧
        cursorsFor r (o.run source limit s state).log = (List.range limit).map cursor

section Ends

variable {o : Operation} {source : Source σ} {s : Selection} {state : σ} {r : Resource}
  {answer : Option UInt64 → Except Failure (Page α)} {Passes : α → Prop}

theorem After.exists_some {n : Nat} {start cursor : Option UInt64}
    (h : After (GoesOn answer Passes) (n + 1) start cursor) : ∃ c, cursor = some c := by
  obtain ⟨before, -, hlast⟩ := h.split
  obtain _ | ⟨⟨page, next, -, -, -, rfl⟩, ⟨⟩⟩ := hlast
  exact ⟨next, rfl⟩

/-- The cursors that steps without a repetition lead to, as a list. -/
theorem exists_cursors {asked : List (Option UInt64)}
    (h : ∀ i cursor, asked[i]? = some cursor ↔ After (GoesOn answer Passes) i none cursor)
    (hnever : NeverReturns (GoesOn answer Passes) none) :
    ∃ cursors : List UInt64, asked = none :: cursors.map some ∧ cursors.Nodup ∧
      ∀ i cursor, cursors[i]? = some cursor ↔
        After (GoesOn answer Passes) (i + 1) none (some cursor) := by
  cases asked with
  | nil => exact absurd ((h 0 none).mpr (.refl none)) nofun
  | cons first later =>
    have hfirst : first = none := by
      obtain ⟨⟩ := (h 0 first).mp rfl
      rfl
    have hlater : later ∈ Set.range (List.map some) := by
      rw [Set.range_list_map]
      intro cursor hmem
      obtain ⟨i, hi⟩ := List.getElem?_of_mem hmem
      obtain ⟨c, rfl⟩ := ((h (i + 1) cursor).mp hi).exists_some
      exact ⟨c, rfl⟩
    obtain ⟨cursors, rfl⟩ := hlater
    have hat (i : Nat) (cursor : UInt64) : cursors[i]? = some cursor ↔
        After (GoesOn answer Passes) (i + 1) none (some cursor) := by
      rw [← h (i + 1) (some cursor), List.getElem?_cons_succ, List.getElem?_map,
        Option.map_eq_some_iff]
      simp
    refine ⟨cursors, by rw [hfirst], ?_, hat⟩
    rw [List.nodup_iff_getElem?_ne_getElem?]
    intro i j hlt hj heq
    have hsame := (hat j cursors[j]).mp (List.getElem?_eq_getElem hj)
    have hsame' := (hat i cursors[j]).mp (heq.trans (List.getElem?_eq_getElem hj))
    exact absurd (hnever _ _ _ hsame' hsame) (by omega)

/-- What an operation does within large limits says how it ends. -/
theorem endsExactly_of_paces
    (hp : ∀ᶠ limit in Filter.atTop,
      Paces r (GoesOn answer Passes) none limit (o.run source limit s state)) :
    o.EndsExactly source s state r (GoesOn answer Passes) := by
  have hdet : Relator.RightUnique (GoesOn answer Passes) := goesOn_rightUnique
  have hiff : (∃ run, o.Ends source s state run) ↔ NeverReturns (GoesOn answer Passes) none := by
    rw [neverReturns_iff hdet]
    constructor
    · rintro ⟨_, hne, limit, rfl⟩ hend
      obtain ⟨limit', hpace, hle⟩ := (hp.and (Filter.eventually_ge_atTop limit)).exists
      rw [← Operation.run_mono hle hne] at hne
      exact hne (hpace.unfinished_iff.mpr (hend limit'))
    · intro hend
      obtain ⟨bound, hbound⟩ := exists_bound_of_not_endless hend
      obtain ⟨limit, hpace, hle⟩ := (hp.and (Filter.eventually_ge_atTop bound)).exists
      exact ⟨_, fun hu => hbound limit hle (hpace.unfinished_iff.mp hu), limit, rfl⟩
  refine ⟨hiff, ?_, fun hends => ?_⟩
  · rintro _ ⟨hne, limit, rfl⟩
    obtain ⟨limit', hpace, hle⟩ := (hp.and (Filter.eventually_ge_atTop limit)).exists
    have hsame := Operation.run_mono hle hne
    rw [← hsame] at hne ⊢
    refine exists_cursors (fun i cursor => ?_) (hiff.mp ⟨_, hne, limit', rfl⟩)
    rw [hpace.asks]
    refine ⟨And.right, fun ha => ⟨?_, ha⟩⟩
    -- With as many steps as the limit, the run would not have ended.
    by_contra hge
    obtain ⟨more, rfl⟩ := Nat.exists_eq_add_of_le (Nat.le_of_not_lt hge)
    obtain ⟨b, hb, -⟩ := ha.split
    exact hne (hpace.unfinished_iff.mpr ⟨b, hb⟩)
  · rw [hiff, neverReturns_iff hdet, not_not] at hends
    obtain ⟨cursor, first, period, hpos, hcursor, hrepeat⟩ := hends.circle hdet
    refine ⟨cursor, first, period, hpos, hcursor, hrepeat, ?_⟩
    filter_upwards [hp] with limit hpace
    refine ⟨hpace.unfinished_iff.mpr ⟨_, hcursor limit⟩, List.ext_getElem? fun i => ?_⟩
    rcases Nat.lt_or_ge i limit with hlt | hge
    · rw [List.getElem?_map, List.getElem?_range hlt, Option.map_some, hpace.asks]
      exact ⟨hlt, hcursor i⟩
    · rw [List.getElem?_eq_none (l := (List.range limit).map cursor) (by simpa using hge),
        List.getElem?_eq_none_iff]
      by_contra hlt
      have hasked := (hpace.asks i _).mp (List.getElem?_eq_getElem (Nat.lt_of_not_le hlt))
      exact absurd hasked.1 (by omega)

end Ends

section Loops

variable {source : Source σ} {answers : Answers} {s : Selection} {state : σ}

/-- A walk without requests for the items gets past all of them. -/
theorem silent_walk_paces (h : source.AnswersBy answers) (r : Resource) (f : r.Item → β)
    (limit : Nat) (state : σ) :
    Paces r (GoesOn (answers.pages r) fun _ => True) none limit
      ((walk (Session.reader source) r (fun a => pure [f a]) limit none).run state) :=
  walk_paces h (fun a => .returned [f a]) (fun _ _ => List.forall_mem_nil _) (fun _ _ => rfl)
    (fun a _ => .inl ⟨⟨[f a], rfl⟩, trivial⟩) limit state

/-- The decision about the pull request ends with a result. -/
def Succeeds (source : Source σ) (s : Selection) (state : σ) (c : Candidate) : Prop :=
  ∃ result, (Operation.resolve c).Gives source s state (.ok result)

/-- What comes of a decision comes of the entries for the pull request. -/
theorem entries_succeed_or_fail {limit : Nat} {c : Candidate} {e : Except Failure Resolution}
    (he : (Operation.resolve c).Gives source s state e)
    (hlimit : (Operation.resolve c).perform answers.reader limit s = .ofExcept e) :
    (∃ es, entries answers.reader limit s c = .returned es) ∧ Succeeds source s state c ∨
      (∃ f, entries answers.reader limit s c = .failed f) ∧ ¬ Succeeds source s state c := by
  cases e with
  | ok result => exact .inl ⟨⟨_, entries_returned hlimit⟩, result, he⟩
  | error f =>
    refine .inr ⟨⟨f, entries_failed hlimit⟩, ?_⟩
    rintro ⟨result, hr⟩
    cases he.unique hr

/-- A listing gets past the pull requests for which the decision succeeds, once the limit is large
enough for all decisions on the way. -/
theorem list_paces (h : source.AnswersBy answers)
    (hends : ∀ c, OnTheWay (answers.pages (.pullRequests s.repository)) (Succeeds source s state)
      none c → ∃ run, (Operation.resolve c).Ends source s state run) :
    ∀ᶠ limit in Filter.atTop, Paces (.pullRequests s.repository)
      (GoesOn (answers.pages (.pullRequests s.repository)) (Succeeds source s state)) none limit
      (Operation.list.run source limit s state) := by
  have hdecided : ∀ᶠ limit in Filter.atTop,
      ∀ c ∈ {c | OnTheWay (answers.pages (.pullRequests s.repository)) (Succeeds source s state)
        none c}, ∃ e, (Operation.resolve c).Gives source s state e ∧
        (Operation.resolve c).perform answers.reader limit s = .ofExcept e := by
    refine (Filter.eventually_all_finite (finite_onTheWay _ _ none)).mpr fun c hc => ?_
    obtain ⟨run, hrun⟩ := hends c hc
    obtain ⟨e, he⟩ := Outcome.exists_ofExcept hrun.1
    have hgives : (Operation.resolve c).Gives source s state e := ⟨run, hrun, he⟩
    filter_upwards [(Operation.gives_iff_eventually h).mp hgives] with limit hlimit
    exact ⟨e, hgives, hlimit⟩
  filter_upwards [hdecided] with limit hdecided
  refine walk_paces h (entries answers.reader limit s) (fun c state => ?_)
    (fun c => ((uniform_outcome h).respects (.inl rfl)).entries s c) (fun c hc => ?_) limit state
  · refine Session.forall_log_bind (fun state x hx hr => ?_)
      (fun _ _ => List.forall_mem_nil _) state
    have hserves := Operation.resolve_request source limit s c state x hx
    rw [hr] at hserves
    exact hserves
  · obtain ⟨e, he, hlimit⟩ := hdecided c hc
    exact entries_succeed_or_fail he hlimit

/-- **Loops over pages end exactly if no cursor comes up a second time** before a page that is the
last or fails, and for a listing, before a decision that fails. Then each page is asked for once,
and otherwise the pages that come up again are asked for over and over. -/
theorem loops_end_exactly (h : source.AnswersBy answers) (s : Selection) (state : σ) :
    (∀ commit,
      (Operation.statuses commit).EndsExactly source s state (.buildStatuses commit)
        (GoesOn (answers.pages (.buildStatuses commit)) fun _ => True) ∧
      ∀ limit, ∀ x ∈ ((Operation.statuses commit).run source limit s state).log,
        x.request.resource = .buildStatuses commit) ∧
    (∀ c : Candidate,
      (Operation.history c).EndsExactly source s state (.commits s.repository c.number)
        (GoesOn (answers.pages (.commits s.repository c.number)) fun _ => True) ∧
      ∀ limit, ∀ x ∈ ((Operation.history c).run source limit s state).log,
        x.request.resource = .commits s.repository c.number) ∧
    ((∀ c, OnTheWay (answers.pages (.pullRequests s.repository)) (Succeeds source s state) none c →
        ∃ run, (Operation.resolve c).Ends source s state run) →
      Operation.list.EndsExactly source s state (.pullRequests s.repository)
        (GoesOn (answers.pages (.pullRequests s.repository)) (Succeeds source s state))) := by
  refine ⟨fun commit => ⟨?_, fun limit => ?_⟩, fun c => ⟨?_, fun limit => ?_⟩, fun hends => ?_⟩
  · exact endsExactly_of_paces (.of_forall fun limit =>
      silent_walk_paces h (.buildStatuses commit) id limit state)
  · exact ((Session.obeys_statuses source limit commit).follows state).forall_request
      (P := fun x => x.resource = .buildStatuses commit) fun _ _ hc => hc.request
  · exact endsExactly_of_paces (.of_forall fun limit =>
      silent_walk_paces h (.commits s.repository c.number) (Commit.markTip c) limit state)
  · refine ((Session.obeys_history source limit s.repository c).follows state).forall_request
      (P := fun x => x.resource = .commits s.repository c.number) ?_
    rintro log _ ⟨commits, hc, rfl⟩
    exact hc.request
  · exact endsExactly_of_paces (list_paces h hends)

/-- A server that hands out pull requests in a circle, and whose builds all succeeded. -/
def carousel : Answers
  | ⟨.pullRequests _, none⟩ => .ok ⟨[greenAndRed.1], some 7⟩
  | ⟨.pullRequests _, some 7⟩ => .ok ⟨[greenAndRed.2], some 0⟩
  | ⟨.pullRequests _, some _⟩ => .ok ⟨[], some 7⟩
  | ⟨.commits _ _, _⟩ => .ok ⟨[], none⟩
  | ⟨.buildStatuses _, _⟩ => .ok ⟨[⟨"u", .successful⟩], none⟩

/-- On the server with the circle, the builds of a commit can be read and the pull requests cannot,
though each decision ends. -/
theorem loops_end_exactly_carousel :
    let s : Selection := ⟨⟨"P", "R"⟩, none, .allGreen, true⟩
    carousel.source.AnswersBy carousel ∧
      (∀ c, ∃ run, (Operation.resolve c).Ends carousel.source s () run) ∧
      (∃ run, (Operation.statuses "green").Ends carousel.source s () run) ∧
      ¬ ∃ run, Operation.list.Ends carousel.source s () run := by
  intro s
  have ha := carousel.source_answersBy
  have hends (c : Candidate) : ∃ run, (Operation.resolve c).Ends carousel.source s () run :=
    ⟨⟨.returned .headGreen, _, ()⟩, nofun, 1, rfl⟩
  have hloops := loops_end_exactly ha s ()
  refine ⟨ha, hends, (hloops.1 "green").1.ends_iff.mpr ?_, fun hlist => ?_⟩
  · -- There is one page, so no step.
    rintro m n a (_ | ⟨⟨page, next, ⟨⟩, -, ⟨⟩, -⟩, -⟩) (_ | ⟨⟨page', next', ⟨⟩, -, ⟨⟩, -⟩, -⟩)
    rfl
  · have hgreen (c : Candidate) : Succeeds carousel.source s () c :=
      ⟨.headGreen, (Operation.gives_iff ha).mpr ⟨1, rfl⟩⟩
    have hstep {cursor : Option UInt64} {page : Page Candidate} {next : UInt64}
        (hp : carousel.pages (.pullRequests s.repository) cursor = .ok page)
        (hn : page.next = some next) :
        GoesOn (carousel.pages (.pullRequests s.repository)) (Succeeds carousel.source s ()) cursor
          (some next) := ⟨page, next, hp, fun c _ => hgreen c, hn, rfl⟩
    have hnever := (hloops.2.2 fun c _ => hends c).ends_iff.mp hlist
    have honce := hnever 1 3 (some 7) (.cons (hstep rfl rfl) (.refl _))
      (.cons (hstep rfl rfl) (.cons (hstep rfl rfl) (.cons (hstep rfl rfl) (.refl _))))
    exact absurd honce (by decide)

end Loops

end OpenPulls
