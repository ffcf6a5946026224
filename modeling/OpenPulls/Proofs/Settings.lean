import Mathlib.Data.List.Forall2
import OpenPulls.Settings

/-!
# Reading settings

Settings are read exactly if all their patterns are, and then the selection holds what was read in
the place of what was written (`Settings.compile_eq_ok_iff`). With an address that has a root, a
client comes of them as well (`Settings.build_eq_ok_iff`). A policy that was read from a list of
patterns says what the list says (`Settings.Selects.isGreen_iff`): an empty list asks for every
build, and no other list is taken for it or for no list at all.
-/

namespace OpenPulls

variable {α β ε ε' : Type}

theorem mapError_eq_ok_iff {x : Except ε α} {f : ε → ε'} {a : α} :
    x.mapError f = .ok a ↔ x = .ok a := by
  cases x <;> simp [Except.mapError]

theorem exists_eq_ok_of_isOk {x : Except ε α} (h : x.isOk = true) : ∃ a, x = .ok a := by
  cases x with
  | error e => cases h
  | ok a => exact ⟨a, rfl⟩

theorem list_mapM_eq_ok_iff {f : α → Except ε β} {as : List α} {bs : List β} :
    as.mapM f = .ok bs ↔ List.Forall₂ (fun a b => f a = .ok b) as bs := by
  induction as generalizing bs with
  | nil =>
    rw [List.mapM_nil, List.forall₂_nil_left_iff]
    exact ⟨fun h => by cases h; rfl, fun h => by rw [h]; rfl⟩
  | cons a as ih =>
    rw [List.mapM_cons, List.forall₂_cons_left_iff]
    cases ha : f a with
    | error e => exact iff_of_false nofun (by simp)
    | ok b =>
      cases has : as.mapM f with
      | error e =>
        refine iff_of_false nofun ?_
        rintro ⟨b', bs', -, h, -⟩
        rw [← ih, has] at h
        cases h
      | ok bs' =>
        constructor
        · intro h
          cases h
          exact ⟨b, bs', rfl, ih.mp has, rfl⟩
        · rintro ⟨b', bs'', hb, h, rfl⟩
          rw [← ih, has] at h
          cases h
          cases hb
          rfl

theorem option_mapM_eq_ok_iff {f : α → Except ε β} {a? : Option α} {b? : Option β} :
    a?.mapM f = .ok b? ↔ Option.Rel (fun a b => f a = .ok b) a? b? := by
  cases a? with
  | none =>
    rw [Option.mapM_none]
    constructor
    · intro h
      cases h
      exact .none
    · rintro ⟨⟩
      rfl
  | some a =>
    rw [Option.mapM_some]
    cases ha : f a with
    | error e =>
      refine iff_of_false nofun ?_
      rintro ⟨h⟩
      rw [ha] at h
      cases h
    | ok b =>
      constructor
      · intro h
        cases h
        exact .some ha
      · rintro ⟨h⟩
        rw [ha] at h
        cases h
        rfl

namespace Settings

variable {settings : Settings} {s : Selection}

/-- The text is read as the pattern. -/
def Reads (text : String) (p : Pattern) : Prop := Pattern.compile text = .ok p

theorem branchPattern_eq_ok_iff {text : String} {p : Pattern} :
    branchPattern text = .ok p ↔ Reads text p :=
  mapError_eq_ok_iff

theorem buildPattern_eq_ok_iff {text : String} {p : Pattern} :
    buildPattern text = .ok p ↔ Reads text p :=
  mapError_eq_ok_iff

/-- The selection holds what was read where the settings hold what was written. -/
structure Selects (settings : Settings) (s : Selection) : Prop where
  repository : s.repository = settings.repository
  branch : Option.Rel Reads settings.branchMatch s.branch
  policy : ∃ builds, Option.Rel (List.Forall₂ Reads) settings.successfulBuilds builds ∧
    s.policy = .ofPatterns builds
  fallback : s.fallback = settings.findLatestSuccessful

theorem compile_eq_ok_iff : settings.compile = .ok s ↔ settings.Selects s := by
  have hbranch {b : Option Pattern} : settings.branchMatch.mapM branchPattern = .ok b ↔
      Option.Rel Reads settings.branchMatch b := by
    simp only [option_mapM_eq_ok_iff, branchPattern_eq_ok_iff]
  have hbuilds {bs : Option (List Pattern)} :
      settings.successfulBuilds.mapM (fun patterns => patterns.mapM buildPattern) = .ok bs ↔
      Option.Rel (List.Forall₂ Reads) settings.successfulBuilds bs := by
    simp only [option_mapM_eq_ok_iff, list_mapM_eq_ok_iff, buildPattern_eq_ok_iff]
  rw [compile]
  constructor
  · intro h
    cases hb : settings.branchMatch.mapM branchPattern with
    | error f => rw [hb] at h; cases h
    | ok b =>
      cases hbs : settings.successfulBuilds.mapM (fun patterns => patterns.mapM buildPattern) with
      | error f => rw [hb, hbs] at h; cases h
      | ok bs =>
        rw [hb, hbs] at h
        cases h
        exact ⟨rfl, hbranch.mp hb, ⟨bs, hbuilds.mp hbs, rfl⟩, rfl⟩
  · rintro ⟨hr, hb, ⟨bs, hbs, hp⟩, hf⟩
    rw [hbranch.mpr hb, hbuilds.mpr hbs]
    show Except.ok (Selection.mk _ _ _ _) = _
    rw [← hr, ← hp, ← hf]

/-- The client is for the root that the address leads to. -/
theorem build_eq_ok_iff {c : Rest.Client} :
    settings.build = .ok (s, c) ↔ settings.compile = .ok s ∧
      Rest.root settings.address = .ok c.root ∧ c.credentials = settings.credentials := by
  rw [build, client]
  cases settings.compile with
  | error f => exact iff_of_false nofun fun h => nomatch h.1
  | ok s' =>
    cases Rest.root settings.address with
    | error f => exact iff_of_false nofun fun h => nomatch h.2.1
    | ok root =>
      constructor
      · intro h
        cases h
        exact ⟨rfl, rfl, rfl⟩
      · rintro ⟨hs, hroot, hc⟩
        cases hs
        cases hroot
        rw [← hc]
        rfl

/-! ## What the selection asks for -/

/-- The branch matches the pattern for branches, if there is one. -/
def AsksForBranch (settings : Settings) (branch : String) : Prop :=
  ∀ text, settings.branchMatch = some text → ∃ p, Reads text p ∧ p.isMatch branch = true

/-- The statuses have what the texts ask for: if there are no texts, every build is successful, and
each text is read as a pattern that matches the name of a successful build. -/
def Satisfied (texts : List String) (statuses : List BuildStatus) : Prop :=
  (texts = [] → ∀ status ∈ statuses, status.state = .successful) ∧
  ∀ text ∈ texts, ∃ p, Reads text p ∧
    ∃ status ∈ statuses, p.isMatch status.name = true ∧ status.state = .successful

theorem forall_mem_iff_of_reads {texts : List String} {ps : List Pattern} {P : Pattern → Prop}
    (h : List.Forall₂ Reads texts ps) :
    (∀ p ∈ ps, P p) ↔ ∀ text ∈ texts, ∃ p, Reads text p ∧ P p := by
  induction h with
  | nil => simp
  | @cons text p texts ps ht _ ih =>
    rw [List.forall_mem_cons, List.forall_mem_cons, ih]
    refine and_congr_left fun _ => ⟨fun hp => ⟨p, ht, hp⟩, ?_⟩
    rintro ⟨p', ht', hp⟩
    rw [Reads, ht] at ht'
    cases ht'
    exact hp

/-- Some texts can be read exactly if each of them can. -/
theorem exists_reads_iff {texts : List String} :
    (∃ ps, List.Forall₂ Reads texts ps) ↔ ∀ text ∈ texts, ∃ p, Reads text p := by
  induction texts with
  | nil => simp
  | cons text texts ih =>
    simp only [List.forall₂_cons_left_iff, List.forall_mem_cons, ← ih]
    constructor
    · rintro ⟨_, p, ps, hp, hps, rfl⟩
      exact ⟨⟨p, hp⟩, ps, hps⟩
    · rintro ⟨⟨p, hp⟩, ps, hps⟩
      exact ⟨_, p, ps, hp, hps, rfl⟩

namespace Selects

theorem admits_iff (h : settings.Selects s) (branch : String) :
    s.admits branch = true ↔ settings.AsksForBranch branch := by
  rw [Selection.admits, AsksForBranch]
  have hb := h.branch
  cases ht : settings.branchMatch with
  | none =>
    rw [ht] at hb
    cases hp : s.branch with
    | none => simp
    | some p => rw [hp] at hb; cases hb
  | some text =>
    rw [ht] at hb
    cases hp : s.branch with
    | none => rw [hp] at hb; cases hb
    | some p =>
      rw [hp, Option.rel_some_some] at hb
      constructor
      · rintro hm text' ⟨⟩
        exact ⟨p, hb, hm⟩
      · intro hm
        obtain ⟨p', hp', hm⟩ := hm text rfl
        rw [Reads, hb] at hp'
        cases hp'
        exact hm

/-- With a list of texts the policy is the one for the patterns that they are read as. -/
theorem policy_eq (h : settings.Selects s) {texts : List String}
    (ht : settings.successfulBuilds = some texts) :
    ∃ ps, List.Forall₂ Reads texts ps ∧ s.policy = .ofPatterns (some ps) := by
  obtain ⟨builds, hb, hp⟩ := h.policy
  rw [ht] at hb
  cases hb with
  | some hps => exact ⟨_, hps, hp⟩

theorem isEnabled (h : settings.Selects s) {texts : List String}
    (ht : settings.successfulBuilds = some texts) : s.policy.isEnabled = true := by
  obtain ⟨ps, -, hp⟩ := h.policy_eq ht
  rw [hp]
  cases ps <;> rfl

/-- **A commit is green if its statuses have what the texts ask for.** -/
theorem isGreen_iff (h : settings.Selects s) {texts : List String}
    (ht : settings.successfulBuilds = some texts) (statuses : List BuildStatus) :
    s.policy.isGreen statuses = true ↔ Satisfied texts statuses := by
  obtain ⟨ps, hps, hp⟩ := h.policy_eq ht
  rw [hp, Satisfied, ← forall_mem_iff_of_reads hps]
  cases hps with
  | nil => simp [Policy.ofPatterns, Policy.isGreen, allGreen, BuildStatus.isSuccessful]
  | cons _ _ => simp [Policy.ofPatterns, Policy.isGreen, namedGreen, BuildStatus.isSuccessful]

end Selects

end Settings

end OpenPulls
