import OpenPulls.Listing.Script
import OpenPulls.Proofs.Protocol
import OpenPulls.Proofs.Settings

/-!
# Soundness of a listing

Every entry of a listing is backed by what was read in the run.

`Backed` says what the log of a run shows for an entry: a page with the pull request, a commit that
may stand for it, and, read after that page, all build statuses of the commit, which have what the
settings ask for. `list_backed` says that the log of a run with a result backs every entry.

The proof goes down the protocol: a result of a walk comes from the visit of an item
(`Walked.mem`), an accepted pull request from the check of a commit (`Decided.accepted`), and the
commit found among older ones from a page of commits (`Probed.found`).
-/

namespace OpenPulls

variable {σ α β : Type}

/-! ## Where results come from -/

theorem Gathered.mem {Visit : α → List Exchange → List β → Prop} {as : List α}
    {log : List Exchange} {results : List β} (h : Gathered Visit as log results) {b : β}
    (hb : b ∈ results) :
    ∃ a ∈ as, ∃ before here after found,
      log = before ++ (here ++ after) ∧ Visit a here found ∧ b ∈ found := by
  induction h with
  | nil => cases hb
  | @cons a rest here later found _ ha _ ih =>
    rcases List.mem_append.mp hb with hb | hb
    · exact ⟨a, List.mem_cons_self, [], here, later, found, rfl, ha, hb⟩
    · obtain ⟨a', ha', before, here', after, found', rfl, hv, hb⟩ := ih hb
      exact ⟨a', List.mem_cons_of_mem _ ha', here ++ before, here', after, found',
        (List.append_assoc ..).symm, hv, hb⟩

/-- A result of a walk comes from the visit of an item of a page. -/
theorem Walked.mem {r : Resource} {Visit : r.Item → List Exchange → List β → Prop}
    {start : Option UInt64} {log : List Exchange} {results : List β}
    (h : Walked r Visit start log results) {b : β} (hb : b ∈ results) :
    ∃ cursor page, ∃ a ∈ page.items, ∃ before between here after found,
      log = before ++ ⟨⟨r, cursor⟩, .ok page⟩ :: (between ++ (here ++ after)) ∧
      Visit a here found ∧ b ∈ found := by
  induction h with
  | @last start page log here _ hg =>
    obtain ⟨a, ha, between, here, after, found, rfl, hv, hb⟩ := hg.mem hb
    exact ⟨start, page, a, ha, [], between, here, after, found, rfl, hv, hb⟩
  | @more start page next log log' here later _ hg _ ih =>
    rcases List.mem_append.mp hb with hb | hb
    · obtain ⟨a, ha, between, here, after, found, rfl, hv, hb⟩ := hg.mem hb
      refine ⟨start, page, a, ha, [], between, here, after ++ log', found, ?_, hv, hb⟩
      simp only [List.append_assoc, List.nil_append]
    · obtain ⟨cursor, page', a, ha, before, between, here', after, found, rfl, hv, hb⟩ := ih hb
      refine ⟨cursor, page', a, ha, ⟨⟨r, start⟩, .ok page⟩ :: (log ++ before), between, here',
        after, found, ?_, hv, hb⟩
      simp only [List.append_assoc, List.cons_append]

/-- An item of a chain comes from one of its pages. -/
theorem Chain.mem {r : Resource} {start : Option UInt64} {log : List Exchange}
    {items : List r.Item} (h : Chain r start log items) {a : r.Item} (ha : a ∈ items) :
    ∃ cursor page, (⟨⟨r, cursor⟩, .ok page⟩ : Exchange) ∈ log ∧ a ∈ page.items := by
  induction h with
  | last _ => exact ⟨_, _, List.mem_cons_self, ha⟩
  | more _ _ ih =>
    rcases List.mem_append.mp ha with ha | ha
    · exact ⟨_, _, List.mem_cons_self, ha⟩
    · obtain ⟨cursor, page, hx, ha⟩ := ih ha
      exact ⟨cursor, page, List.mem_cons_of_mem _ hx, ha⟩

/-- The commit that was found is one of those probed, not the tip, and was checked last. -/
theorem Probed.found {policy : Policy} {c : Candidate} {commits : List Commit}
    {log : List Exchange} {id : String} (h : Probed policy c commits log (some id)) :
    ∃ k ∈ commits, k.id = id ∧ ¬ k.IsTipOf c ∧
      ∃ before check, log = before ++ check ∧ Checked policy id check true := by
  generalize hf : some id = found at h
  induction h with
  | nil => cases hf
  | tip _ _ ih =>
    obtain ⟨k, hk, h⟩ := ih hf
    exact ⟨k, List.mem_cons_of_mem _ hk, h⟩
  | @green k rest log ht hc =>
    cases hf
    exact ⟨k, List.mem_cons_self, rfl, ht, [], log, rfl, hc⟩
  | @red k rest log log' found ht hc _ ih =>
    obtain ⟨k', hk', hid, ht', before, check, rfl, hc'⟩ := ih hf
    exact ⟨k', List.mem_cons_of_mem _ hk', hid, ht', log ++ before, check,
      (List.append_assoc ..).symm, hc'⟩

/-! ## Evidence -/

/-- The commit may stand for the pull request: it is the head, or some page of its commits in the
log holds it, without a tip mark and under a name that is not one of the head. -/
def StandsFor (repository : Repository) (c : Candidate) (log : List Exchange) (id : String) :
    Prop :=
  id = c.head ∨ ∃ cursor page,
    (⟨⟨.commits repository c.number, cursor⟩, .ok page⟩ : Exchange) ∈ log ∧
    ∃ k ∈ page.items, k.id = id ∧ k.isTip = false ∧ k.id ≠ c.head ∧ k.id ≠ c.ref

theorem StandsFor.of_probed {policy : Policy} {repository : Repository} {c : Candidate}
    {commits : List Commit} {log log' : List Exchange} {id : String}
    (hc : Chain (.commits repository c.number) none log commits)
    (hp : Probed policy c commits log' (some id)) : StandsFor repository c log id := by
  obtain ⟨k, hk, rfl, ht, -⟩ := hp.found
  obtain ⟨cursor, page, hx, hk⟩ := hc.mem hk
  rw [Commit.IsTipOf, not_or, not_or, Bool.not_eq_true] at ht
  exact .inr ⟨cursor, page, hx, k, hk, rfl, ht⟩

theorem StandsFor.mono {repository : Repository} {c : Candidate} {log log' : List Exchange}
    {id : String} (h : StandsFor repository c log id) (hl : log ⊆ log') :
    StandsFor repository c log' id := by
  rcases h with h | ⟨cursor, page, hx, hk⟩
  · exact .inl h
  · exact .inr ⟨cursor, page, hl hx, hk⟩

/-- A pull request that is accepted under a build check has an admitted branch, and the accepted
commit stands for it and was found green at the end of the decision. -/
theorem Decided.accepted {s : Selection} {c : Candidate} {log : List Exchange}
    {result : Resolution} (h : Decided s c log result) (he : s.policy.isEnabled = true)
    {id : String} (hid : result.accepted? c = some id) :
    s.admits c.branch = true ∧ ∃ before check, log = before ++ check ∧
      StandsFor s.repository c before id ∧ Checked s.policy id check true := by
  cases h with
  | branchRejected _ => cases hid
  | headNotGreen _ _ _ _ => cases hid
  | noPolicy _ hp =>
    rw [he] at hp
    cases hp
  | headGreen ha _ hc =>
    cases hid
    exact ⟨ha, [], log, rfl, .inl rfl, hc⟩
  | @fallback log log' log'' commits found ha _ _ _ hk hp =>
    cases found with
    | none => cases hid
    | some commit =>
      cases hid
      obtain ⟨-, -, -, -, before, check, rfl, hc⟩ := hp.found
      refine ⟨ha, log ++ (log' ++ before), check, by simp only [List.append_assoc], ?_, hc⟩
      exact (StandsFor.of_probed hk hp).mono fun x hx =>
        List.mem_append_right _ (List.mem_append_left _ hx)

/-- The log backs the entry. It holds a page with the pull request, whose branch is asked for. Later
on it holds a complete chain of build statuses of the commit of the entry, which have what the
texts ask for; and by then the commit was known to stand for the pull request. -/
def Backed (settings : Settings) (texts : List String) (log : List Exchange)
    (p : ResolvedPullRequest) : Prop :=
  ∃ (c : Candidate) (cursor : Option UInt64) (page : Page Candidate)
    (before between chain after : List Exchange) (statuses : List BuildStatus),
    log = before ++ ⟨⟨.pullRequests settings.repository, cursor⟩, .ok page⟩ ::
      (between ++ (chain ++ after)) ∧
    c ∈ page.items ∧ c.number = p.number ∧ c.branch = p.branch ∧
    settings.AsksForBranch p.branch ∧
    StandsFor settings.repository c between p.head ∧
    Chain (.buildStatuses p.head) none chain statuses ∧ Settings.Satisfied texts statuses

/-- A complete log backs every entry that it results in. -/
theorem Listed.backed {settings : Settings} {texts : List String} {s : Selection}
    (ht : settings.successfulBuilds = some texts) (hs : settings.Selects s)
    {log : List Exchange} {ps : List ResolvedPullRequest} (h : Listed s log ps)
    {p : ResolvedPullRequest} (hp : p ∈ ps) : Backed settings texts log p := by
  obtain ⟨cursor, page, c, hc, before, between, here, after, _, rfl, ⟨result, hd, rfl⟩, hp⟩ :=
    Walked.mem h hp
  obtain ⟨id, hid, rfl⟩ : ∃ id, result.accepted? c = some id ∧ ⟨c.number, c.branch, id⟩ = p := by
    simpa [Resolution.entries] using hp
  obtain ⟨ha, before', check, rfl, hst, statuses, hch, hg⟩ := hd.accepted (hs.isEnabled ht) hid
  rw [hs.repository] at hst
  refine ⟨c, cursor, page, before, between ++ before', check, after, statuses, ?_, hc, rfl, rfl,
    (hs.admits_iff c.branch).mp ha, hst.mono fun x hx => List.mem_append_right _ hx, hch,
    (hs.isGreen_iff ht statuses).mp hg⟩
  rw [hs.repository]
  simp only [List.append_assoc]

/-- **A listing is sound.** If the settings ask for builds, every entry of a listing is backed by
the log of the run, whatever the source answers and however its answers change. -/
theorem list_backed {settings : Settings} {texts : List String} {s : Selection}
    (ht : settings.successfulBuilds = some texts) (hs : settings.compile = .ok s)
    {source : Source σ} {limit : Nat} {state : σ} {ps : List ResolvedPullRequest}
    (h : (Operation.list.run source limit s state).outcome = .returned ps) :
    ∀ p ∈ ps, Backed settings texts (Operation.list.run source limit s state).log p := by
  intro p hp
  have hf := (Session.obeys_list source limit s).follows state
  rw [Operation.run, Operation.perform] at h
  rw [h] at hf
  exact Listed.backed ht (Settings.compile_eq_ok_iff.mp hs) hf.complete hp

/-- Settings with a pattern for branches and one for builds, where older commits count. -/
def pickySettings : Settings := ⟨⟨"P", "R"⟩, some "f", some ["u"], true, none, ""⟩

/-- A server where the head of a pull request is not green, and an older commit is. The statuses of
the head stand on two pages. -/
def redHead : Script where
  pullRequests := [⟨(), none,
    .ok ⟨[⟨1, "x", "refs/heads/x", "a"⟩, ⟨2, "f", "refs/heads/f", "b"⟩], none⟩, false⟩]
  builds := [⟨"b", none, .ok ⟨[⟨"u", .failed⟩], some 7⟩, false⟩,
    ⟨"b", some 7, .ok ⟨[⟨"v", .successful⟩], none⟩, false⟩,
    ⟨"c", none, .ok ⟨[⟨"u", .successful⟩], none⟩, false⟩]
  commits := [⟨2, none, .ok ⟨[⟨"b", false⟩, ⟨"c", false⟩], none⟩, false⟩]

theorem list_backed_redHead :
    ∃ s, pickySettings.successfulBuilds = some ["u"] ∧ pickySettings.compile = .ok s ∧
      (Operation.list.run Script.source 3 s redHead).outcome = .returned [⟨2, "f", "c"⟩] ∧
      Backed pickySettings ["u"] (Operation.list.run Script.source 3 s redHead).log
        ⟨2, "f", "c"⟩ := by
  obtain ⟨s, hs, ho⟩ : ∃ s, pickySettings.compile = .ok s ∧
      (Operation.list.run Script.source 3 s redHead).outcome = .returned [⟨2, "f", "c"⟩] :=
    exists_returned (by decide +kernel)
  exact ⟨s, rfl, hs, ho, list_backed rfl hs ho _ List.mem_cons_self⟩

end OpenPulls
