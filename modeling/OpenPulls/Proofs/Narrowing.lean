import OpenPulls.Proofs.Decisions
import OpenPulls.Proofs.Settings

/-!
# More builds, fewer pull requests

If a user asks for further builds, the listing can only become shorter, and what it still holds can
only get older.

A commit that has all of the builds also has some of them, so the two listings search the same
commits for a first one with a weaker and with a stronger property. The stronger search finds
nothing that the weaker one has not passed or stopped at (`find?_of_imp`), whether or not its
listing reads the older commits where the other one does not.

`list_narrows` says so of settings.
-/

namespace OpenPulls

open Listing

variable {σ α : Type}

/-! ## Searches -/

/-- A search for a weaker property finds something, and not later, if one for a stronger property
finds something. -/
theorem find?_of_imp [DecidableEq α] {p q : α → Bool} {as : List α} {b : α}
    (hpq : ∀ a, q a = true → p a = true) (hb : as.find? q = some b) :
    ∃ a, as.find? p = some a ∧ as.idxOf a ≤ as.idxOf b := by
  induction as with
  | nil => cases hb
  | cons x as ih =>
    cases hp : p x with
    | true =>
      refine ⟨x, List.find?_cons_of_pos hp, ?_⟩
      rw [List.idxOf_cons_self]
      exact Nat.zero_le _
    | false =>
      have hq : ¬ q x = true := fun hq => by simp [hpq x hq] at hp
      rw [List.find?_cons_of_neg hq] at hb
      obtain ⟨a, ha, hle⟩ := ih hb
      have hxa : x ≠ a := fun heq => by simp [heq, List.find?_some ha] at hp
      have hxb : x ≠ b := fun heq => hq (heq ▸ List.find?_some hb)
      refine ⟨a, by rw [List.find?_cons_of_neg (by simp [hp]), ha], ?_⟩
      rw [List.idxOf_cons_ne _ hxa, List.idxOf_cons_ne _ hxb]
      exact Nat.succ_le_succ hle

/-- Fewer accepted pull requests have fewer numbers. -/
theorem numbers_sublist {loose strict : Candidate → Resolution}
    (h : ∀ c id, (strict c).accepted? c = some id → ∃ id', (loose c).accepted? c = some id')
    (cs : List Candidate) :
    ((acceptedOf strict cs).map ResolvedPullRequest.number).Sublist
      ((acceptedOf loose cs).map ResolvedPullRequest.number) := by
  induction cs with
  | nil => exact .slnil
  | cons c cs ih =>
    cases hs : (strict c).accepted? c with
    | none =>
      have hskip : acceptedOf strict (c :: cs) = acceptedOf strict cs := by simp [acceptedOf, hs]
      rw [hskip]
      cases hl : (loose c).accepted? c with
      | none => simpa [acceptedOf, hl] using ih
      | some id => simpa [acceptedOf, hl] using ih.cons c.number
    | some id =>
      obtain ⟨id', hl⟩ := h c id hs
      simpa [acceptedOf, hs, hl] using ih

/-! ## Decisions -/

/-- If all that is green for the second selection is green for the first, and they agree otherwise,
then the first accepts what the second accepts, with a commit that is tried no later. -/
theorem decision_narrows {s s' : Selection} {green green' : String → Bool} {commits : List Commit}
    {c : Candidate} {id' : String} (hadmits : s'.admits c.branch = true → s.admits c.branch = true)
    (hp : s.policy.isEnabled = true) (hp' : s'.policy.isEnabled = true)
    (hf : s'.fallback = s.fallback) (hgreen : ∀ commit, green' commit = true → green commit = true)
    (h : (decision s' green' commits c).accepted? c = some id') :
    ∃ id, (decision s green commits c).accepted? c = some id ∧ id' ∈ c.ranking commits ∧
      (c.ranking commits).idxOf id ≤ (c.ranking commits).idxOf id' ∧
      (s.fallback = false → id = c.head ∧ id' = c.head) := by
  have ha' := admits_of_accepted h
  rw [accepted?_decision s' green' commits c ha' hp', hf] at h
  rw [accepted?_decision s green commits c (hadmits ha') hp]
  cases hfallback : s.fallback with
  | true =>
    rw [hfallback, if_pos rfl] at h
    rw [if_pos rfl]
    obtain ⟨id, hid, hle⟩ := find?_of_imp hgreen h
    exact ⟨id, hid, List.mem_of_find?_eq_some h, hle, nofun⟩
  | false =>
    rw [hfallback, if_neg Bool.false_ne_true] at h
    rw [if_neg Bool.false_ne_true]
    obtain ⟨id, hid, -⟩ := find?_of_imp hgreen h
    have hhead := List.mem_singleton.mp (List.mem_of_find?_eq_some hid)
    have hhead' := List.mem_singleton.mp (List.mem_of_find?_eq_some h)
    subst hhead hhead'
    exact ⟨c.head, hid, List.mem_cons_self, le_rfl, fun _ => ⟨rfl, rfl⟩⟩

/-! ## Settings -/

namespace Settings

/-- The settings with this list of patterns for builds. -/
def asking (settings : Settings) (texts : List String) : Settings :=
  { settings with successfulBuilds := some texts }

theorem Satisfied.of_append {texts more : List String} {statuses : List BuildStatus}
    (hne : texts ≠ []) (h : Satisfied (texts ++ more) statuses) : Satisfied texts statuses :=
  ⟨fun hnil => absurd hnil hne, fun text ht => h.2 text (List.mem_append_left more ht)⟩

/-- What is green for more patterns is green for fewer. -/
theorem Selects.isGreen_of_append {settings : Settings} {texts more : List String}
    {s s' : Selection} (hne : texts ≠ []) (h : (settings.asking texts).Selects s)
    (h' : (settings.asking (texts ++ more)).Selects s') {statuses : List BuildStatus}
    (hg : s'.policy.isGreen statuses = true) : s.policy.isGreen statuses = true :=
  (h.isGreen_iff rfl statuses).mpr (.of_append hne ((h'.isGreen_iff rfl statuses).mp hg))

end Settings

/-- **Asking for more builds only narrows a listing.** On a source without a memory whose pages are
all answered and come to an end, both listings have a result. The pull requests of the one for more
patterns are among those of the other, in the same order, and each is listed with a commit that is
tried no earlier. -/
theorem list_narrows {source : Source σ} {answers : Answers} (h : source.AnswersBy answers)
    (hends : ∀ r, ∃ pages, Leads (answers.pages r) none pages none) {settings : Settings}
    {texts more : List String} (hne : texts ≠ []) {s s' : Selection}
    (hs : (settings.asking texts).compile = .ok s)
    (hs' : (settings.asking (texts ++ more)).compile = .ok s') (state : σ) :
    ∃ (pages : List (Page Candidate)) (loose strict : Candidate → Resolution),
      Leads (answers.pages (.pullRequests settings.repository)) none pages none ∧
      (∀ c, (Operation.resolve c).Gives source s state (.ok (loose c))) ∧
      (∀ c, (Operation.resolve c).Gives source s' state (.ok (strict c))) ∧
      Operation.list.Gives source s state (.ok (acceptedOf loose (itemsOf pages))) ∧
      Operation.list.Gives source s' state (.ok (acceptedOf strict (itemsOf pages))) ∧
      ((acceptedOf strict (itemsOf pages)).map ResolvedPullRequest.number).Sublist
        ((acceptedOf loose (itemsOf pages)).map ResolvedPullRequest.number) ∧
      ∀ c commits id', Leads (answers.pages (.commits settings.repository c.number)) none commits
        none → (strict c).accepted? c = some id' →
        ∃ id, (loose c).accepted? c = some id ∧ id' ∈ c.ranking (itemsOf commits) ∧
          (c.ranking (itemsOf commits)).idxOf id ≤ (c.ranking (itemsOf commits)).idxOf id' ∧
          (settings.findLatestSuccessful = false → id = c.head ∧ id' = c.head) := by
  have hsel := Settings.compile_eq_ok_iff.mp hs
  have hsel' := Settings.compile_eq_ok_iff.mp hs'
  have hrepo : s.repository = settings.repository := hsel.repository
  have hrepo' : s'.repository = settings.repository := hsel'.repository
  choose pages hpages using hends
  let green (s : Selection) : String → Bool :=
    greenOn s.policy fun commit => pages (.buildStatuses commit)
  let result (s : Selection) (c : Candidate) : Resolution :=
    decision s (green s) (itemsOf (pages (.commits settings.repository c.number))) c
  have hgives {s : Selection} (hr : s.repository = settings.repository) (c : Candidate) :
      (Operation.resolve c).Gives source s state (.ok (result s c)) :=
    resolve_gives h (fun commit => hpages (.buildStatuses commit)) (hr ▸ hpages _) state
  have hlists {s : Selection} (hr : s.repository = settings.repository) :
      Operation.list.Gives source s state
        (.ok (acceptedOf (result s) (itemsOf (pages (.pullRequests settings.repository))))) :=
    gives_of_traversed h (.complete (hr ▸ hpages _) fun c _ => hgives hr c)
  have hgreen (commit : String) : green s' commit = true → green s commit = true :=
    hsel.isGreen_of_append hne hsel'
  have hnarrow (c : Candidate) (id' : String) (hid : (result s' c).accepted? c = some id') :=
    decision_narrows
      (fun ha => (hsel.admits_iff c.branch).mpr ((hsel'.admits_iff c.branch).mp ha))
      (hsel.isEnabled rfl) (hsel'.isEnabled rfl) (hsel'.fallback.trans hsel.fallback.symm)
      hgreen hid
  refine ⟨pages (.pullRequests _), result s, result s', hpages _, hgives hrepo, hgives hrepo',
    hlists hrepo, hlists hrepo', ?_, fun c commits id' hk hid => ?_⟩
  · refine numbers_sublist (fun c id' hid => ?_) _
    obtain ⟨id, hid, -⟩ := hnarrow c id' hid
    exact ⟨id, hid⟩
  · obtain rfl := hk.unique (hpages (.commits settings.repository c.number))
    obtain ⟨id, hid, hmem, hle, hhead⟩ := hnarrow c id' hid
    exact ⟨id, hid, hmem, hle, fun hoff => hhead (hsel.fallback.trans hoff)⟩

/-- A server with one pull request, where one of two builds failed for the head, and both succeeded
for the other commits. -/
def halfGreen : Answers
  | ⟨.pullRequests _, _⟩ => .ok ⟨[⟨1, "x", "refs/heads/x", "new"⟩], none⟩
  | ⟨.commits _ _, _⟩ => .ok ⟨[⟨"new", false⟩, ⟨"old", false⟩], none⟩
  | ⟨.buildStatuses commit, _⟩ =>
    .ok ⟨[⟨"u", .successful⟩, ⟨"v", if commit = "new" then .failed else .successful⟩], none⟩

theorem list_narrows_halfGreen :
    let settings : Settings := ⟨⟨"P", "R"⟩, none, none, true, none, ""⟩
    ∃ s s', (settings.asking ["u"]).compile = .ok s ∧
      (settings.asking ["u", "v"]).compile = .ok s' ∧
      halfGreen.source.AnswersBy halfGreen ∧
      (∀ r, ∃ pages, Leads (halfGreen.pages r) none pages none) ∧
      ∃ ps ps', Operation.list.Gives halfGreen.source s () (.ok ps) ∧
        Operation.list.Gives halfGreen.source s' () (.ok ps') ∧
        (ps'.map ResolvedPullRequest.number).Sublist (ps.map ResolvedPullRequest.number) := by
  intro settings
  obtain ⟨s, hs⟩ : ∃ s, (settings.asking ["u"]).compile = .ok s :=
    exists_eq_ok_of_isOk (by decide +kernel)
  obtain ⟨s', hs'⟩ : ∃ s', (settings.asking (["u"] ++ ["v"])).compile = .ok s' :=
    exists_eq_ok_of_isOk (by decide +kernel)
  have h := halfGreen.source_answersBy
  have hends (r : Resource) : ∃ pages, Leads (halfGreen.pages r) none pages none := by
    cases r <;> exact ⟨_, .last rfl rfl⟩
  obtain ⟨_, _, _, _, _, _, hlist, hlist', hsub, -⟩ :=
    list_narrows h hends (List.cons_ne_nil "u" []) hs hs' ()
  exact ⟨s, s', hs, hs', h, hends, _, _, hlist, hlist', hsub⟩

end OpenPulls
