import OpenPulls.Proofs.Stateless

/-!
# A listing as a traversal

On a source without a memory, a listing is the traversal of the pull requests that the cursors lead
to, and the borders between pages do not show.

`Leads` follows cursors from page to page. `Traversed` says what comes of a traversal, given what
comes of the single decisions: the entries of all pull requests in order if every page is answered
and every decision succeeds, else the first failure on the way. `list_traverses` says that this is
what comes of a listing, and hence that two sources with the same pull requests on different pages
have the same listing.

The proof reads the pages first (`walk_leads`): to read on from a cursor is to visit the items of
some pages as one list, and to read on from where they lead.
-/

namespace OpenPulls

open Listing

variable {σ τ α β : Type}

/-! ## Following cursors -/

/-- The items of some pages in order. -/
def itemsOf (pages : List (Page α)) : List α := pages.flatMap Page.items

@[simp] theorem itemsOf_nil : itemsOf ([] : List (Page α)) = [] := rfl

@[simp] theorem itemsOf_cons (page : Page α) (pages : List (Page α)) :
    itemsOf (page :: pages) = page.items ++ itemsOf pages := rfl

/-- From the cursor `start` on, the answers are `pages`. They lead to the cursor of a next page, or
to none if the last of them has no successor. -/
inductive Leads (answer : Option UInt64 → Except Failure (Page α)) :
    Option UInt64 → List (Page α) → Option (Option UInt64) → Prop
  | refl (start : Option UInt64) : Leads answer start [] (some start)
  | last {start : Option UInt64} {page : Page α} :
      answer start = .ok page → page.next = none → Leads answer start [page] none
  | more {start : Option UInt64} {page : Page α} {next : UInt64} {pages : List (Page α)}
      {target : Option (Option UInt64)} :
      answer start = .ok page → page.next = some next → Leads answer (some next) pages target →
      Leads answer start (page :: pages) target

/-- There is only one way to a last page. -/
theorem Leads.unique {answer : Option UInt64 → Except Failure (Page α)} {start : Option UInt64}
    {pages pages' : List (Page α)} (h : Leads answer start pages none)
    (h' : Leads answer start pages' none) : pages = pages' := by
  generalize ht : (none : Option (Option UInt64)) = target at h
  induction h generalizing pages' with
  | refl => cases ht
  | @last start page ha hn =>
    cases h' with
    | last ha' _ =>
      rw [ha] at ha'
      cases ha'
      rfl
    | more ha' hn' _ =>
      rw [ha] at ha'
      cases ha'
      rw [hn] at hn'
      cases hn'
  | @more start page next pages target ha hn _ ih =>
    cases h' with
    | last ha' hn' =>
      rw [ha] at ha'
      cases ha'
      rw [hn] at hn'
      cases hn'
    | more ha' hn' hl =>
      rw [ha] at ha'
      cases ha'
      rw [hn] at hn'
      cases hn'
      rw [ih hl ht]

/-- As many pages as are wanted can be followed, unless they come to an end before, or to a page
that fails. -/
theorem Leads.exists_of_limit (answer : Option UInt64 → Except Failure (Page α)) (limit : Nat)
    (start : Option UInt64) :
    ∃ pages target, Leads answer start pages target ∧ pages.length ≤ limit ∧
      (target = none ∨ pages.length = limit ∨
        ∃ cursor f, target = some cursor ∧ answer cursor = .error f) := by
  induction limit generalizing start with
  | zero => exact ⟨[], _, .refl start, le_rfl, .inr (.inl rfl)⟩
  | succ limit ih =>
    cases ha : answer start with
    | error f => exact ⟨[], _, .refl start, Nat.zero_le _, .inr (.inr ⟨start, f, rfl, ha⟩)⟩
    | ok page =>
      cases hn : page.next with
      | none => exact ⟨[page], none, .last ha hn, by simp, .inl rfl⟩
      | some next =>
        obtain ⟨pages, target, hl, hle, ht⟩ := ih (some next)
        refine ⟨page :: pages, target, .more ha hn hl, by simpa using hle, ?_⟩
        rcases ht with ht | ht | ht
        · exact .inl ht
        · exact .inr (.inl (by rw [List.length_cons, ht]))
        · exact .inr (.inr ht)

theorem gather_append {m : Type → Type} [Monad m] [LawfulMonad m] (visit : α → m (List β))
    (as bs : List α) :
    gather visit (as ++ bs) = do
      let here ← gather visit as
      let later ← gather visit bs
      return here ++ later := by
  induction as with
  | nil => simp [gather]
  | cons a as ih =>
    simp only [gather, List.cons_append, ih, bind_assoc, pure_bind, List.append_assoc]

section Walk

variable {answers : Answers} {r : Resource} {visit : r.Item → Outcome (List β)}
  {start : Option UInt64}

theorem walk_error {f : Failure} (h : answers ⟨r, start⟩ = .error f) (limit : Nat) :
    walk answers.reader r visit (limit + 1) start = .failed f := by
  simp [walk, Answers.reader, h, Outcome.ofExcept]

theorem walk_last {page : Page r.Item} (h : answers ⟨r, start⟩ = .ok page)
    (hn : page.next = none) (limit : Nat) :
    walk answers.reader r visit (limit + 1) start = gather visit page.items := by
  simp [walk, Answers.reader, h, hn, Outcome.ofExcept]

theorem walk_more {page : Page r.Item} {next : UInt64} (h : answers ⟨r, start⟩ = .ok page)
    (hn : page.next = some next) (limit : Nat) :
    walk answers.reader r visit (limit + 1) start = do
      let here ← gather visit page.items
      let later ← walk answers.reader r visit limit (some next)
      return here ++ later := by
  simp [walk, Answers.reader, h, hn, Outcome.ofExcept]

/-- **Borders between pages do not show.** To read on from a cursor is to visit the items of the
pages that follow as one list, and to read on from where they lead. -/
theorem walk_leads {pages : List (Page r.Item)} {target : Option (Option UInt64)}
    (h : Leads (answers.pages r) start pages target) (limit : Nat) :
    walk answers.reader r visit (pages.length + limit) start = do
      let here ← gather visit (itemsOf pages)
      match target with
      | none => return here
      | some cursor =>
        let later ← walk answers.reader r visit limit cursor
        return here ++ later := by
  induction h with
  | refl start => simp [gather]
  | @last start page ha hn =>
    rw [List.length_singleton, Nat.add_comm, walk_last ha hn]
    simp
  | @more start page next pages target ha hn _ ih =>
    rw [List.length_cons, Nat.add_right_comm, walk_more ha hn, ih]
    rw [itemsOf_cons, gather_append]
    cases target <;> simp only [bind_assoc, pure_bind, List.append_assoc]

end Walk

/-! ## Visiting items -/

section Gather

variable {visit : α → Outcome (List β)}

theorem gather_returned {f : α → List β} {as : List α}
    (h : ∀ a ∈ as, visit a = .returned (f a)) : gather visit as = .returned (as.flatMap f) := by
  induction as with
  | nil => rfl
  | cons a as ih =>
    rw [List.forall_mem_cons] at h
    simp [gather, h.1, ih h.2]

theorem gather_succeeds {as : List α} (h : ∀ a ∈ as, ∃ bs, visit a = .returned bs) :
    ∃ bs, gather visit as = .returned bs := by
  induction as with
  | nil => exact ⟨[], rfl⟩
  | cons a as ih =>
    rw [List.forall_mem_cons] at h
    obtain ⟨⟨here, ha⟩, hs⟩ := h
    obtain ⟨later, hl⟩ := ih hs
    exact ⟨here ++ later, by simp [gather, ha, hl]⟩

theorem gather_failed {before after : List α} {a : α} {f : Failure}
    (hb : ∀ b ∈ before, ∃ bs, visit b = .returned bs) (ha : visit a = .failed f) :
    gather visit (before ++ a :: after) = .failed f := by
  induction before with
  | nil => simp [gather, ha]
  | cons b before ih =>
    rw [List.forall_mem_cons] at hb
    obtain ⟨⟨bs, h⟩, hb⟩ := hb
    simp [gather, h, ih hb]

/-- All visits have a result, or a first one fails, or some visit does not come to an end. -/
theorem gather_cases (visit : α → Outcome (List β)) (as : List α) :
    (∀ a ∈ as, ∃ bs, visit a = .returned bs) ∨
    (∃ before a after f, as = before ++ a :: after ∧
      (∀ b ∈ before, ∃ bs, visit b = .returned bs) ∧ visit a = .failed f) ∨
    gather visit as = .unfinished := by
  induction as with
  | nil => exact .inl nofun
  | cons a as ih =>
    cases ha : visit a with
    | failed f => exact .inr (.inl ⟨[], a, as, f, rfl, nofun, ha⟩)
    | unfinished => exact .inr (.inr (by simp [gather, ha]))
    | returned bs =>
      rcases ih with h | ⟨before, b, after, f, rfl, hb, hf⟩ | h
      · exact .inl (List.forall_mem_cons.mpr ⟨⟨bs, ha⟩, h⟩)
      · exact .inr (.inl ⟨a :: before, b, after, f, rfl,
          List.forall_mem_cons.mpr ⟨⟨bs, ha⟩, hb⟩, hf⟩)
      · exact .inr (.inr (by simp [gather, ha, h]))

end Gather

/-! ## Decisions on the way -/

/-- The entries for those pull requests that are accepted, in order. -/
def acceptedOf (result : Candidate → Resolution) (cs : List Candidate) :
    List ResolvedPullRequest :=
  cs.filterMap fun c => ((result c).accepted? c).map fun commit => ⟨c.number, c.branch, commit⟩

theorem acceptedOf_eq_flatMap (result : Candidate → Resolution) (cs : List Candidate) :
    acceptedOf result cs = cs.flatMap fun c => (result c).entries c :=
  List.filterMap_eq_flatMap_toList ..

/-- What comes of reading pages and deciding about their pull requests in order, given what comes of
each page and of each decision. -/
inductive Traversed (answer : Option UInt64 → Except Failure (Page Candidate))
    (Decides : Candidate → Except Failure Resolution → Prop) :
    Except Failure (List ResolvedPullRequest) → Prop
  /-- All pages are answered and all decisions succeed. -/
  | complete {pages : List (Page Candidate)} {result : Candidate → Resolution} :
      Leads answer none pages none → (∀ c ∈ itemsOf pages, Decides c (.ok (result c))) →
      Traversed answer Decides (.ok (acceptedOf result (itemsOf pages)))
  /-- A page fails, and no decision before it does. -/
  | pageFailed {pages : List (Page Candidate)} {cursor : Option UInt64} {f : Failure} :
      Leads answer none pages (some cursor) →
      (∀ c ∈ itemsOf pages, ∃ result, Decides c (.ok result)) → answer cursor = .error f →
      Traversed answer Decides (.error f)
  /-- A decision fails, and neither a page nor a decision before it does. -/
  | decisionFailed {pages : List (Page Candidate)} {target : Option (Option UInt64)}
      {before after : List Candidate} {c : Candidate} {f : Failure} :
      Leads answer none pages target → itemsOf pages = before ++ c :: after →
      (∀ b ∈ before, ∃ result, Decides b (.ok result)) → Decides c (.error f) →
      Traversed answer Decides (.error f)

section Entries

variable {answers : Answers} {limit : Nat} {s : Selection} {c : Candidate}

theorem entries_eq_map :
    entries answers.reader limit s c =
      (fun result => result.entries c) <$> resolve answers.reader limit s c := by
  rw [entries, bind_pure_comp]

theorem entries_returned {result : Resolution}
    (h : resolve answers.reader limit s c = .returned result) :
    entries answers.reader limit s c = .returned (result.entries c) := by
  rw [entries_eq_map, h, Outcome.map_returned]

theorem entries_failed {f : Failure} (h : resolve answers.reader limit s c = .failed f) :
    entries answers.reader limit s c = .failed f := by
  rw [entries_eq_map, h, Outcome.map_failed]

theorem resolve_of_entries_returned {es : List ResolvedPullRequest}
    (h : entries answers.reader limit s c = .returned es) :
    ∃ result, resolve answers.reader limit s c = .returned result := by
  rw [entries_eq_map] at h
  cases hr : resolve answers.reader limit s c with
  | returned result => exact ⟨result, rfl⟩
  | failed f => rw [hr] at h; cases h
  | unfinished => rw [hr] at h; cases h

theorem resolve_of_entries_failed {f : Failure}
    (h : entries answers.reader limit s c = .failed f) :
    resolve answers.reader limit s c = .failed f := by
  rw [entries_eq_map] at h
  cases hr : resolve answers.reader limit s c with
  | returned result => rw [hr] at h; cases h
  | failed f' => rw [hr] at h; cases h; rfl
  | unfinished => rw [hr] at h; cases h

/-- Within a limit, all decisions about some pull requests succeed, or a first one fails, or some
decision does not come to an end. -/
theorem gather_entries_cases (answers : Answers) (limit : Nat) (s : Selection)
    (cs : List Candidate) :
    (∃ result : Candidate → Resolution,
      (∀ c ∈ cs, resolve answers.reader limit s c = .returned (result c)) ∧
      gather (entries answers.reader limit s) cs = .returned (acceptedOf result cs)) ∨
    (∃ before c after f, cs = before ++ c :: after ∧
      (∀ b ∈ before, ∃ result, resolve answers.reader limit s b = .returned result) ∧
      resolve answers.reader limit s c = .failed f ∧
      gather (entries answers.reader limit s) cs = .failed f) ∨
    gather (entries answers.reader limit s) cs = .unfinished := by
  rcases gather_cases (entries answers.reader limit s) cs with
    hall | ⟨before, c, after, f, rfl, hb, hf⟩ | hu
  · have hr : ∀ c ∈ cs, resolve answers.reader limit s c =
        .returned ((resolve answers.reader limit s c).getD .noPolicy) := by
      intro c hc
      obtain ⟨es, he⟩ := hall c hc
      obtain ⟨result, hresult⟩ := resolve_of_entries_returned he
      rw [hresult, Outcome.getD]
    refine .inl ⟨_, hr, ?_⟩
    rw [gather_returned fun c hc => entries_returned (hr c hc), acceptedOf_eq_flatMap]
  · refine .inr (.inl ⟨before, c, after, f, rfl, fun b hb' => ?_, resolve_of_entries_failed hf,
      gather_failed hb hf⟩)
    obtain ⟨es, he⟩ := hb b hb'
    exact resolve_of_entries_returned he
  · exact .inr (.inr hu)

end Entries

section Listing

variable {source : Source σ} {answers : Answers} {s : Selection} {state : σ}
  {e : Except Failure (List ResolvedPullRequest)}

theorem traversed_of_gives (h : source.AnswersBy answers)
    (hg : Operation.list.Gives source s state e) :
    Traversed (answers.pages (.pullRequests s.repository))
      (fun c => (Operation.resolve c).Gives source s state) e := by
  obtain ⟨limit, hlist⟩ := (Operation.gives_iff h).mp hg
  obtain ⟨pages, target, hl, hle, ht⟩ :=
    Leads.exists_of_limit (answers.pages (.pullRequests s.repository)) limit none
  obtain ⟨more, rfl⟩ := Nat.exists_eq_add_of_le hle
  have decides {c : Candidate} {e : Except Failure Resolution}
      (hc : resolve answers.reader (pages.length + more) s c = .ofExcept e) :
      (Operation.resolve c).Gives source s state e := (Operation.gives_iff h).mpr ⟨_, hc⟩
  change walk answers.reader (.pullRequests s.repository)
    (entries answers.reader (pages.length + more) s) _ none = _ at hlist
  rw [walk_leads hl] at hlist
  rcases gather_entries_cases answers (pages.length + more) s (itemsOf pages) with
    ⟨result, hr, hret⟩ | ⟨before, c, after, f, hsplit, hb, hc, hfail⟩ | hu
  · rw [hret, Outcome.returned_bind] at hlist
    cases target with
    | none =>
      rw [Outcome.returned_eq_ofExcept.mp hlist]
      exact .complete hl fun c hc => decides (hr c hc)
    | some cursor =>
      -- There is a next page. If it could be read within the limit, it would be one of `pages`,
      -- so it fails or the walk gives up there.
      cases more with
      | zero => exact absurd hlist.symm (Outcome.ofExcept_ne_unfinished e)
      | succ more =>
        obtain ⟨cursor', f, hcursor, hf⟩ := (ht.resolve_left nofun).resolve_left (by omega)
        cases hcursor
        simp only [walk_error hf, Outcome.failed_bind] at hlist
        rw [Outcome.failed_eq_ofExcept.mp hlist]
        exact .pageFailed hl (fun c hc => ⟨_, decides (hr c hc)⟩) hf
  · rw [hfail, Outcome.failed_bind] at hlist
    rw [Outcome.failed_eq_ofExcept.mp hlist]
    refine .decisionFailed hl hsplit (fun b hb' => ?_) (decides hc)
    obtain ⟨result, hresult⟩ := hb b hb'
    exact ⟨result, decides hresult⟩
  · rw [hu, Outcome.unfinished_bind] at hlist
    exact absurd hlist.symm (Outcome.ofExcept_ne_unfinished e)

theorem eventually_returned (h : source.AnswersBy answers) {c : Candidate} {result : Resolution}
    (hd : (Operation.resolve c).Gives source s state (.ok result)) :
    ∀ᶠ limit in Filter.atTop, entries answers.reader limit s c = .returned (result.entries c) := by
  filter_upwards [(Operation.gives_iff_eventually h).mp hd] with limit hr
  exact entries_returned hr

/-- With enough pages, all decisions that succeed do so. -/
theorem eventually_succeed (h : source.AnswersBy answers) {cs : List Candidate}
    (hd : ∀ c ∈ cs, ∃ result, (Operation.resolve c).Gives source s state (.ok result)) :
    ∀ᶠ limit in Filter.atTop, ∀ c ∈ cs, ∃ es, entries answers.reader limit s c = .returned es := by
  refine (Filter.eventually_all_finite cs.finite_toSet).mpr fun c hc => ?_
  obtain ⟨result, hr⟩ := hd c hc
  filter_upwards [eventually_returned h hr] with limit he
  exact ⟨_, he⟩

theorem gives_of_traversed (h : source.AnswersBy answers)
    (ht : Traversed (answers.pages (.pullRequests s.repository))
      (fun c => (Operation.resolve c).Gives source s state) e) :
    Operation.list.Gives source s state e := by
  rw [Operation.gives_iff_eventually h]
  show ∀ᶠ limit in Filter.atTop, walk answers.reader (.pullRequests s.repository)
    (entries answers.reader limit s) limit none = .ofExcept e
  cases ht with
  | @complete pages result hl hd =>
    have hr : ∀ᶠ limit in Filter.atTop, ∀ c ∈ itemsOf pages,
        entries answers.reader limit s c = .returned ((result c).entries c) :=
      (Filter.eventually_all_finite (itemsOf pages).finite_toSet).mpr fun c hc =>
        eventually_returned h (hd c hc)
    filter_upwards [hr, Filter.eventually_ge_atTop pages.length] with limit hr hle
    obtain ⟨more, rfl⟩ := Nat.exists_eq_add_of_le hle
    rw [walk_leads hl, gather_returned hr, acceptedOf_eq_flatMap, Outcome.returned_bind]
    rfl
  | @pageFailed pages cursor f hl hd hf =>
    filter_upwards [eventually_succeed h hd, Filter.eventually_gt_atTop pages.length] with
      limit hr hlt
    obtain ⟨more, rfl⟩ := Nat.exists_eq_add_of_lt hlt
    obtain ⟨es, he⟩ := gather_succeeds hr
    rw [Nat.add_assoc] at he ⊢
    rw [walk_leads hl, he, Outcome.returned_bind]
    simp only [walk_error hf, Outcome.failed_bind]
    rfl
  | @decisionFailed pages target before after c f hl hsplit hd hf =>
    filter_upwards [eventually_succeed h hd, Filter.eventually_ge_atTop pages.length,
      (Operation.gives_iff_eventually h).mp hf] with limit hr hle hf
    obtain ⟨more, rfl⟩ := Nat.exists_eq_add_of_le hle
    rw [walk_leads hl, hsplit, gather_failed hr (entries_failed hf), Outcome.failed_bind]
    rfl

/-- **A listing is the traversal of the decisions about its pull requests.** And if two sources have
the same pull requests on different pages and decide alike about each of them, they have the same
listing. -/
theorem list_traverses (h : source.AnswersBy answers) (s : Selection) (state : σ) :
    (∀ e, Operation.list.Gives source s state e ↔
      Traversed (answers.pages (.pullRequests s.repository))
        (fun c => (Operation.resolve c).Gives source s state) e) ∧
    ∀ {τ : Type} {source' : Source τ} {answers' : Answers} {state' : τ}
      {pages pages' : List (Page Candidate)}, source'.AnswersBy answers' →
      Leads (answers.pages (.pullRequests s.repository)) none pages none →
      Leads (answers'.pages (.pullRequests s.repository)) none pages' none →
      itemsOf pages = itemsOf pages' →
      (∀ c ∈ itemsOf pages, ∃ result : Resolution,
        (Operation.resolve c).Gives source s state (.ok result) ∧
        (Operation.resolve c).Gives source' s state' (.ok result)) →
      ∃ ps, Operation.list.Gives source s state (.ok ps) ∧
        Operation.list.Gives source' s state' (.ok ps) := by
  refine ⟨fun e => ⟨traversed_of_gives h, gives_of_traversed h⟩, ?_⟩
  intro τ source' answers' state' pages pages' h' hl hl' hitems hd
  have : Nonempty Resolution := ⟨.noPolicy⟩
  choose! result hr hr' using hd
  refine ⟨acceptedOf result (itemsOf pages), gives_of_traversed h (.complete hl hr), ?_⟩
  rw [hitems] at hr' ⊢
  exact gives_of_traversed h' (.complete hl' hr')

/-- A server where the builds of every commit but `red` succeeded. It has the given pages of pull
requests, and the cursor of a page is its number. -/
def shelf (pages : List (List Candidate)) : Answers
  | ⟨.pullRequests _, cursor⟩ =>
    let number := (cursor.getD 0).toNat
    .ok ⟨pages.getD number [],
      if number + 1 < pages.length then some (number + 1).toUInt64 else none⟩
  | ⟨.commits _ _, _⟩ => .ok ⟨[⟨"c", false⟩], none⟩
  | ⟨.buildStatuses commit, _⟩ =>
    .ok ⟨[⟨"u", if commit = "red" then .failed else .successful⟩], none⟩

/-- A pull request whose head is green, and one whose head is not. -/
def greenAndRed : Candidate × Candidate :=
  (⟨1, "x", "refs/heads/x", "green"⟩, ⟨2, "y", "refs/heads/y", "red"⟩)

theorem list_traverses_shelf :
    let together := shelf [[greenAndRed.1, greenAndRed.2]]
    let apart := shelf [[greenAndRed.1], [], [greenAndRed.2]]
    let s : Selection := ⟨⟨"P", "R"⟩, none, .allGreen, true⟩
    together.source.AnswersBy together ∧ apart.source.AnswersBy apart ∧
      ∃ ps, Operation.list.Gives together.source s () (.ok ps) ∧
        Operation.list.Gives apart.source s () (.ok ps) := by
  intro together apart s
  have ht := together.source_answersBy
  have ha := apart.source_answersBy
  refine ⟨ht, ha, (list_traverses ht s ()).2 ha (.last rfl rfl)
    (.more rfl rfl (.more rfl rfl (.last rfl rfl))) rfl fun c hc => ?_⟩
  rcases List.mem_pair.mp hc with rfl | rfl
  · exact ⟨.headGreen, (Operation.gives_iff ht).mpr ⟨1, rfl⟩, (Operation.gives_iff ha).mpr ⟨1, rfl⟩⟩
  · exact ⟨.fallbackFound "c", (Operation.gives_iff ht).mpr ⟨1, rfl⟩,
      (Operation.gives_iff ha).mpr ⟨1, rfl⟩⟩

end Listing

end OpenPulls
