import OpenPulls.Proofs.Url.Authority

/-!
# Blanks before a path

Controls and blanks at the end of an address do not count. If a path is written behind them they
do, and where the address ended in its authority they have become a part of that.

* `Fits`: what was left out can stand in an authority at its end.
* `EndsIn`: an address ends in its authority.
* `TakesPath`: a path fits behind a text.
* `parse_append_iff`: the path of the interface behind an address makes an address again exactly if
  it fits.

The three kinds of schemes have readers of their own, and each of them comes down to an authority
(`fromScheme_known`, `fromScheme_file`, `fromScheme_unknown`). `fromAuthority_append_iff_fits` is the
step for an authority, and `fromFile_append_iff_fits` the one for the host of a file.
-/

namespace OpenPulls.Url

open OpenPulls.Rest (rootPath)

/-! ## Blanks and a path behind an authority -/

section Fits

variable {scheme authority lost more : List Char}

/-- The parts of an authority behind its user: the host, and the port with its colon. A file has no
port. -/
def hostPort (scheme authority : List Char) : List Char × List Char :=
  if scheme = fileScheme then (authority, [])
  else splitHost (isSpecial scheme) false (splitUserinfo (isSpecial scheme) authority).2

/-- Blanks and controls with a path behind them can be written behind the authority. -/
structure Fits (scheme authority lost : List Char) : Prop where
  /-- A path alone can stand behind everything but a lone `@`. -/
  named : isSpecial scheme = false → lost = [] → authority ≠ ['@']
  /-- Without a port they become the end of the host. -/
  host : lost ≠ [] → (hostPort scheme authority).2 = [] →
    ∃ h, hostOf (isSpecial scheme) ((hostPort scheme authority).1 ++ lost) = .ok h
  /-- With a port they stand behind its digits, and a backslash has to end it before. That is in the
  port only if the scheme is unknown, where it does not end the authority. -/
  port : lost ≠ [] → (hostPort scheme authority).2 ≠ [] → '\\' ∈ (hostPort scheme authority).2

theorem endsAuthority_of_special {special : Bool} {c : Char}
    (h : endsAuthority special c = true) : endsAuthority true c = true := by
  simp only [endsAuthority, isSlash, Bool.or_eq_true, Bool.and_eq_true] at h ⊢
  exact h.imp_left (Or.imp_right fun hc => ⟨trivial, hc.2⟩)

/-- Blanks and controls end no part of an address. -/
theorem endsAuthority_of_isEdge {special : Bool} {c : Char} (h : isEdge c = true) :
    endsAuthority special c = false := by
  rw [Bool.eq_false_iff]
  intro hends
  simp only [endsAuthority, isSlash, endsPath, Bool.or_eq_true, Bool.and_eq_true, beq_iff_eq]
    at hends
  rcases hends with (rfl | ⟨-, rfl⟩) | rfl | rfl <;> cases h

theorem isSlash_of_isEdge {c : Char} (h : isEdge c = true) : isSlash true c = false :=
  (Bool.or_eq_false_iff.mp (endsAuthority_of_isEdge h)).1

theorem isDigit_of_isEdge {c : Char} (h : isEdge c = true) : c.isDigit = false := by
  rw [isEdge, decide_eq_true_eq] at h
  rw [Bool.eq_false_iff]
  simp only [ne_eq, Char.isDigit, Bool.and_eq_true, decide_eq_true_eq, not_and, ge_iff_le,
    UInt32.le_iff_toNat_le]
  intro hle
  exact absurd (Nat.le_trans hle h) (by decide)

theorem splitUserinfo_suffix (special : Bool) (text : List Char) :
    (splitUserinfo special text).2 <:+ text := by
  simp only [splitUserinfo]
  split
  · have hplace := List.reverse_suffix.mpr
      (List.takeWhile_prefix (· ≠ '@') (l := (text.takeWhile (!endsAuthority special ·)).reverse))
    rw [List.reverse_reverse] at hplace
    obtain ⟨front, hfront⟩ := hplace
    refine ⟨front, ?_⟩
    rw [← List.append_assoc, hfront, List.takeWhile_append_dropWhile]
  · exact List.suffix_refl text

section Open

variable {userinfo : Option (List Char)} {place host port : List Char}

/-- What ends the authority makes no difference to it, unless it is a lone `@`. -/
theorem fromAuthority_ok_iff_of_open
    (hopen : ∀ c ∈ authority, endsAuthority (isSpecial scheme) c = false)
    (huser : splitUserinfo (isSpecial scheme) authority = (userinfo, place))
    (hhost : splitHost (isSpecial scheme) false place = (host, port))
    (hmore : ∀ c ∈ more.head?, endsAuthority (isSpecial scheme) c = true) :
    (∃ u, fromAuthority scheme (authority ++ more) = .ok u) ↔
      ¬ (userinfo = some [] ∧ place = [] ∧ more ≠ []) ∧
        Readable (isSpecial scheme) userinfo host port := by
  have hplace : ∀ c ∈ place, endsAuthority (isSpecial scheme) c = false := by
    have hsuffix := splitUserinfo_suffix (isSpecial scheme) authority
    rw [huser] at hsuffix
    exact fun c hc => hopen c (hsuffix.subset hc)
  have hport : ∀ c ∈ port.head?, c = ':' := by
    cases port with
    | nil => nofun
    | cons c digits =>
      rintro _ ⟨⟩
      obtain ⟨hsuffix, hc⟩ := splitHost_head hhost
      rw [hplace c (hsuffix.subset List.mem_cons_self)] at hc
      exact hc.resolve_left Bool.false_ne_true
  have hnone : more.takeWhile (!endsAuthority (isSpecial scheme) ·) = [] := by
    cases more with
    | nil => rfl
    | cons c more => exact List.takeWhile_cons_of_neg (by simp [hmore c rfl])
  have huser' : splitUserinfo (isSpecial scheme) (authority ++ more) = (userinfo, place ++ more) := by
    rw [splitUserinfo_append_of_notMem hopen (hnone ▸ List.not_mem_nil), huser]
  have hhost' : splitHost (isSpecial scheme) false (place ++ more) = (host, port ++ more) := by
    cases port with
    | nil =>
      have hgoes := splitHost_append_of_nil hhost (List.forall_mem_nil _) hmore
      rwa [List.append_nil] at hgoes
    | cons c digits => exact splitHost_append_of_cons hhost more
  rw [fromAuthority_ok_iff huser' hhost', readable_append hport fun c hc =>
    endsAuthority_of_special (hmore c hc)]
  refine and_congr_left fun _ => ?_
  cases place with
  | nil =>
    cases more with
    | nil => simp
    | cons c more => simp [hmore c rfl]
  | cons d place => simp [hplace d List.mem_cons_self]

theorem readable_of_open (hopen : ∀ c ∈ authority, endsAuthority (isSpecial scheme) c = false)
    (huser : splitUserinfo (isSpecial scheme) authority = (userinfo, place))
    (hhost : splitHost (isSpecial scheme) false place = (host, port))
    (hok : ∃ u, fromAuthority scheme authority = .ok u) :
    Readable (isSpecial scheme) userinfo host port := by
  have hnil : ∀ c ∈ ([] : List Char).head?, endsAuthority (isSpecial scheme) c = true := nofun
  refine ((fromAuthority_ok_iff_of_open hopen huser hhost hnil).mp ?_).2
  rwa [List.append_nil]

/-- No user is named in front of nothing by a lone `@` only. -/
theorem eq_at_of_splitUserinfo {special : Bool}
    (hopen : ∀ c ∈ authority, endsAuthority special c = false)
    (h : splitUserinfo special authority = (some [], [])) : authority = ['@'] := by
  have hpos : ∀ c ∈ authority, (!endsAuthority special c) = true := fun c hc => by
    rw [hopen c hc, Bool.not_false]
  simp only [splitUserinfo, List.takeWhile_eq_self_iff.mpr hpos,
    List.dropWhile_eq_nil_iff.mpr hpos] at h
  split at h
  next hat =>
    simp only [List.append_nil, Prod.mk.injEq, Option.some.injEq] at h
    obtain ⟨htake, hplace⟩ := h
    rw [hplace, List.length_nil, Nat.sub_zero] at htake
    rw [List.contains_iff_mem] at hat
    cases authority with
    | nil => cases hat
    | cons c rest =>
      cases rest with
      | nil => rw [List.mem_singleton.mp hat]
      | cons d rest => cases htake
  next => cases h

/-- Up to the end of an authority nothing changes behind it. -/
theorem fromAuthority_append_of_ends {text : List Char}
    (hends : ∃ c ∈ text, endsAuthority (isSpecial scheme) c = true)
    (hok : ∃ u, fromAuthority scheme text = .ok u) (more : List Char) :
    ∃ v, fromAuthority scheme (text ++ more) = .ok v := by
  let front := text.takeWhile (!endsAuthority (isSpecial scheme) ·)
  have hfront : ∀ c ∈ front, endsAuthority (isSpecial scheme) c = false := fun c hc => by
    simpa using List.mem_takeWhile_imp hc
  obtain ⟨c, rest, hrest⟩ : ∃ c rest, text.dropWhile (!endsAuthority (isSpecial scheme) ·) =
      c :: rest := by
    refine List.exists_cons_of_ne_nil fun hnil => ?_
    obtain ⟨c, hmem, hc⟩ := hends
    have hnone := List.dropWhile_eq_nil_iff.mp hnil c hmem
    simp [hc] at hnone
  have hc : endsAuthority (isSpecial scheme) c = true := by
    have hhead := List.head?_dropWhile_not (!endsAuthority (isSpecial scheme) ·) text
    rw [hrest] at hhead
    simpa using hhead
  have htext : text = front ++ c :: rest := by
    rw [← hrest, List.takeWhile_append_dropWhile]
  rw [htext] at hok ⊢
  rw [fromAuthority_ok_iff_of_open hfront rfl rfl (by rintro _ ⟨⟩; exact hc)] at hok
  rw [List.append_assoc, List.cons_append,
    fromAuthority_ok_iff_of_open hfront rfl rfl (by rintro _ ⟨⟩; exact hc)]
  simpa using hok

/-- A backslash ends the authority of a known scheme only, but the port of any. -/
theorem eq_backslash {special : Bool} {c : Char} (h : endsAuthority true c = true)
    (hnot : endsAuthority special c = false) : c = '\\' := by
  simp only [endsAuthority, isSlash, endsPath, Bool.true_and, Bool.or_eq_true, beq_iff_eq] at h
  rcases h with (rfl | rfl) | rfl | rfl
  · cases hnot
  · rfl
  · cases special <;> cases hnot
  · cases special <;> cases hnot

/-- A port is not read any more if blanks stand behind its digits. -/
theorem readable_blanks_iff {special : Bool} {digits : List Char}
    (hopen : ∀ c ∈ digits, endsAuthority special c = false)
    (hread : Readable special userinfo host (':' :: digits)) (hne : lost ≠ [])
    (hlost : ∀ c ∈ lost, isEdge c = true) :
    Readable special userinfo host (':' :: digits ++ lost) ↔ '\\' ∈ digits := by
  obtain ⟨hnamed, hhost, hport⟩ := hread
  have hne' : host ≠ [] := fun hnil => (hnamed hnil).2.1 rfl
  have hok : Readable special userinfo host (':' :: digits ++ lost) ↔
      ∃ p, Url.port (':' :: (digits ++ lost)) = .ok p :=
    ⟨Readable.port, fun h => ⟨fun hnil => absurd hnil hne', hhost, h⟩⟩
  obtain ⟨hnumber, hends⟩ := port_colon_ok_iff.mp hport
  rw [hok, port_colon_ok_iff]
  cases hbehind : digits.dropWhile Char.isDigit with
  | nil =>
    have hdigits := List.dropWhile_eq_nil_iff.mp hbehind
    refine iff_of_false ?_ fun hmem => absurd (hdigits '\\' hmem) (by decide)
    rintro ⟨-, hends'⟩
    obtain ⟨c, lost, rfl⟩ := List.exists_cons_of_ne_nil hne
    have hc : isEdge c = true := hlost c List.mem_cons_self
    rw [List.dropWhile_append_of_pos hdigits,
      List.dropWhile_cons_of_neg (by simp [isDigit_of_isEdge hc])] at hends'
    have hcEnds := hends' c rfl
    rw [endsAuthority_of_isEdge hc] at hcEnds
    cases hcEnds
  | cons e rest =>
    have he : e ∈ digits := List.dropWhile_subset _ (hbehind ▸ List.mem_cons_self)
    have hbackslash := eq_backslash (hends e (by rw [hbehind]; rfl)) (hopen e he)
    have htake : (digits ++ lost).takeWhile Char.isDigit = digits.takeWhile Char.isDigit :=
      takeWhile_append_of_exists ⟨e, he, hbackslash ▸ rfl⟩ lost
    have hdrop : (digits ++ lost).dropWhile Char.isDigit = e :: (rest ++ lost) := by
      rw [List.dropWhile_append, hbehind]
      rfl
    rw [htake, hdrop]
    refine iff_of_true ⟨hnumber, ?_⟩ (hbackslash ▸ he)
    rintro _ ⟨⟩
    exact hends e (by rw [hbehind]; rfl)

/-- Where nothing was left out, a path only spoils a lone `@`. -/
theorem fromAuthority_slash_iff
    (hopen : ∀ c ∈ authority, endsAuthority (isSpecial scheme) c = false)
    (hok : ∃ u, fromAuthority scheme authority = .ok u) (more : List Char) :
    (∃ v, fromAuthority scheme (authority ++ '/' :: more) = .ok v) ↔
      (isSpecial scheme = false → authority ≠ ['@']) := by
  obtain ⟨userinfo, place, huser⟩ : ∃ userinfo place,
      splitUserinfo (isSpecial scheme) authority = (userinfo, place) := ⟨_, _, rfl⟩
  obtain ⟨host, port, hhost⟩ : ∃ host port,
      splitHost (isSpecial scheme) false place = (host, port) := ⟨_, _, rfl⟩
  have hslash : ∀ c ∈ ('/' :: more).head?, endsAuthority (isSpecial scheme) c = true := by
    rintro _ ⟨⟩
    rfl
  have hread := readable_of_open hopen huser hhost hok
  rw [fromAuthority_ok_iff_of_open hopen huser hhost hslash, and_iff_left hread]
  constructor
  · rintro hlone hspecial hat
    rw [hspecial, hat] at huser
    cases huser
    exact hlone ⟨rfl, rfl, List.cons_ne_nil _ _⟩
  · rintro hnamed ⟨rfl, rfl, -⟩
    cases hhost
    exact hnamed (hread.named rfl).1 (eq_at_of_splitUserinfo hopen huser)

/-- What was left out is read as the end of the place, in front of the path. -/
theorem fromAuthority_blanks_iff
    (hopen : ∀ c ∈ authority, endsAuthority (isSpecial scheme) c = false)
    (huser : splitUserinfo (isSpecial scheme) authority = (userinfo, place))
    (hhost : splitHost (isSpecial scheme) false (place ++ lost) = (host, port)) (hne : lost ≠ [])
    (hlost : ∀ c ∈ lost, isEdge c = true) (more : List Char) :
    (∃ v, fromAuthority scheme (authority ++ (lost ++ '/' :: more)) = .ok v) ↔
      Readable (isSpecial scheme) userinfo host port := by
  have hopen' : ∀ c ∈ authority ++ lost, endsAuthority (isSpecial scheme) c = false :=
    List.forall_mem_append.mpr ⟨hopen, fun c hc => endsAuthority_of_isEdge (hlost c hc)⟩
  have hat : '@' ∉ lost.takeWhile (!endsAuthority (isSpecial scheme) ·) := fun h =>
    absurd (hlost '@' (List.takeWhile_subset _ h)) (by decide)
  have huser' : splitUserinfo (isSpecial scheme) (authority ++ lost) =
      (userinfo, place ++ lost) := by
    rw [splitUserinfo_append_of_notMem hopen hat, huser]
  have hslash : ∀ c ∈ ('/' :: more).head?, endsAuthority (isSpecial scheme) c = true := by
    rintro _ ⟨⟩
    rfl
  rw [← List.append_assoc, fromAuthority_ok_iff_of_open hopen' huser' hhost hslash]
  exact and_iff_right fun h => hne (List.append_eq_nil_iff.mp h.2.1).2

/-- **Blanks and a path behind an authority** leave it readable exactly if they fit. -/
theorem fromAuthority_append_iff_fits (hfile : scheme ≠ fileScheme)
    (hopen : ∀ c ∈ authority, endsAuthority (isSpecial scheme) c = false)
    (hok : ∃ u, fromAuthority scheme authority = .ok u) (hlost : ∀ c ∈ lost, isEdge c = true)
    (more : List Char) :
    (∃ v, fromAuthority scheme (authority ++ (lost ++ '/' :: more)) = .ok v) ↔
      Fits scheme authority lost := by
  by_cases hne : lost = []
  · subst hne
    rw [List.nil_append, fromAuthority_slash_iff hopen hok]
    constructor
    · intro hnamed
      exact ⟨fun hspecial _ => hnamed hspecial, absurd rfl, absurd rfl⟩
    · intro h hspecial
      exact h.named hspecial rfl
  obtain ⟨userinfo, place, huser⟩ : ∃ userinfo place,
      splitUserinfo (isSpecial scheme) authority = (userinfo, place) := ⟨_, _, rfl⟩
  obtain ⟨host, port, hhost⟩ : ∃ host port,
      splitHost (isSpecial scheme) false place = (host, port) := ⟨_, _, rfl⟩
  have hparts : hostPort scheme authority = (host, port) := by
    rw [hostPort, if_neg hfile, huser, hhost]
  have hread := readable_of_open hopen huser hhost hok
  cases port with
  | nil =>
    have hhost' : splitHost (isSpecial scheme) false (place ++ lost) = (host ++ lost, []) := by
      have hinside : ∀ c ∈ lost, endsAuthority (isSpecial scheme) c = false ∧ c ≠ ':' :=
        fun c hc => ⟨endsAuthority_of_isEdge (hlost c hc), by
          rintro rfl
          exact absurd (hlost ':' hc) (by decide)⟩
      have hnil : ∀ c ∈ ([] : List Char).head?, endsAuthority (isSpecial scheme) c = true := nofun
      have hgoes := splitHost_append_of_nil hhost hinside hnil
      rwa [List.append_nil] at hgoes
    rw [fromAuthority_blanks_iff hopen huser hhost' hne hlost]
    constructor
    · rintro ⟨-, hhost'', -⟩
      refine ⟨fun _ h => absurd h hne, fun _ _ => ?_, fun _ h => ?_⟩
      · rw [hparts]
        exact hhost'' (by simp [hne])
      · rw [hparts] at h
        exact absurd rfl h
    · rintro ⟨-, hhost'', -⟩
      rw [hparts] at hhost''
      exact ⟨fun h => absurd (List.append_eq_nil_iff.mp h).2 hne, fun _ => hhost'' hne rfl,
        hread.port⟩
  | cons c digits =>
    obtain ⟨hsuffix, hc⟩ := splitHost_head hhost
    have hport : ∀ d ∈ c :: digits, endsAuthority (isSpecial scheme) d = false := fun d hd => by
      have huserSuffix := splitUserinfo_suffix (isSpecial scheme) authority
      rw [huser] at huserSuffix
      exact hopen d (huserSuffix.subset (hsuffix.subset hd))
    rw [hport c List.mem_cons_self] at hc
    obtain rfl : c = ':' := hc.resolve_left Bool.false_ne_true
    rw [List.forall_mem_cons] at hport
    rw [fromAuthority_blanks_iff hopen huser (splitHost_append_of_cons hhost lost) hne hlost,
      readable_blanks_iff hport.2 hread hne hlost]
    constructor
    · intro hbackslash
      refine ⟨fun _ h => absurd h hne, fun _ h => ?_, fun _ _ => ?_⟩
      · rw [hparts] at h
        cases h
      · rw [hparts]
        exact List.mem_cons_of_mem _ hbackslash
    · rintro ⟨-, -, hbackslash⟩
      rw [hparts] at hbackslash
      exact (List.mem_cons.mp (hbackslash hne (List.cons_ne_nil _ _))).resolve_left (by decide)

end Open

end Fits

/-! ## Schemes -/

section Schemes

variable {scheme rest authority lost : List Char}

/-- An address ends in its authority, so what is written behind the address comes into that. The
address is given by its scheme and what stands behind the colon. -/
inductive EndsIn : List Char → List Char → List Char → Prop where
  | known {scheme slashes authority : List Char} (hspecial : isSpecial scheme = true)
      (hfile : scheme ≠ fileScheme) (hslashes : ∀ c ∈ slashes, isSlash true c = true)
      (hopen : ∀ c ∈ authority, endsAuthority true c = false) :
      EndsIn scheme (slashes ++ authority) authority
  | file {c d : Char} {authority : List Char} (hc : isSlash true c = true)
      (hd : isSlash true d = true) (hopen : ∀ c ∈ authority, endsAuthority true c = false) :
      EndsIn fileScheme (c :: d :: authority) authority
  | unknown {scheme authority : List Char} (hspecial : isSpecial scheme = false)
      (hopen : ∀ c ∈ authority, endsAuthority false c = false) :
      EndsIn scheme ('/' :: '/' :: authority) authority

/-- An authority takes what it fits, and has ended before if anything does. -/
theorem fromAuthority_append_iff (hfile : scheme ≠ fileScheme)
    (hok : ∃ u, fromAuthority scheme authority = .ok u) (hlost : ∀ c ∈ lost, isEdge c = true)
    (more : List Char) :
    (∃ v, fromAuthority scheme (authority ++ (lost ++ '/' :: more)) = .ok v) ↔
      ((∀ c ∈ authority, endsAuthority (isSpecial scheme) c = false) →
        Fits scheme authority lost) := by
  by_cases hopen : ∀ c ∈ authority, endsAuthority (isSpecial scheme) c = false
  · rw [fromAuthority_append_iff_fits hfile hopen hok hlost, imp_iff_right hopen]
  · refine iff_of_true (fromAuthority_append_of_ends ?_ hok _) fun h => absurd h hopen
    simpa using hopen

theorem fromScheme_known (hspecial : isSpecial scheme = true) (hfile : scheme ≠ fileScheme)
    (hok : ∃ u, fromScheme scheme rest = .ok u) (hlost : ∀ c ∈ lost, isEdge c = true)
    (more : List Char) :
    (∃ v, fromScheme scheme (rest ++ (lost ++ '/' :: more)) = .ok v) ↔
      ∀ authority, EndsIn scheme rest authority → Fits scheme authority lost := by
  simp only [fromScheme_of_isSpecial hspecial hfile] at hok ⊢
  have hne : rest.dropWhile (isSlash true) ≠ [] := by
    intro hempty
    rw [hempty, fromAuthority_nil hspecial] at hok
    cases hok.choose_spec
  have hdrop : (rest ++ (lost ++ '/' :: more)).dropWhile (isSlash true) =
      rest.dropWhile (isSlash true) ++ (lost ++ '/' :: more) := by
    rw [List.dropWhile_append, if_neg (by simpa using hne)]
  rw [hdrop, fromAuthority_append_iff hfile hok hlost, hspecial]
  constructor
  · intro h authority hends
    cases hends with
    | @known _ slashes authority _ _ hslashes hopen =>
      have hauthority : (slashes ++ authority).dropWhile (isSlash true) = authority := by
        rw [List.dropWhile_append_of_pos hslashes]
        cases authority with
        | nil => rfl
        | cons c authority =>
          have hc := hopen c List.mem_cons_self
          rw [endsAuthority, Bool.or_eq_false_iff] at hc
          exact List.dropWhile_cons_of_neg (by simp [hc.1])
      rw [hauthority] at h
      exact h hopen
    | file => exact absurd rfl hfile
    | unknown hspecial' =>
      rw [hspecial] at hspecial'
      cases hspecial'
  · intro h hopen
    refine h _ ?_
    have hsplit := List.takeWhile_append_dropWhile (p := isSlash true) (l := rest)
    have hknown := EndsIn.known hspecial hfile
      (fun c hc => List.mem_takeWhile_imp (l := rest) hc) hopen
    rwa [hsplit] at hknown

/-- Two slashes at the beginning stand there before, or the slash of the path is the second one. -/
theorem slashes_of_append {c d : Char} {more : List Char} (hlost : ∀ c ∈ lost, isEdge c = true)
    (hc : isSlash true c = true) (hd : isSlash true d = true)
    (h : rest ++ (lost ++ rootPath) = c :: d :: more) :
    (∃ authority, rest = c :: d :: authority) ∨ rest = [c] ∧ lost = [] := by
  cases rest with
  | nil =>
    cases lost with
    | nil =>
      cases h
      cases hd
    | cons e lost =>
      rw [← (List.cons.inj h).1, isSlash_of_isEdge (hlost e List.mem_cons_self)] at hc
      cases hc
  | cons e rest =>
    obtain ⟨rfl, hrest⟩ := List.cons.inj h
    cases rest with
    | nil =>
      cases lost with
      | nil => exact .inr ⟨rfl, rfl⟩
      | cons e' lost =>
        rw [← (List.cons.inj hrest).1, isSlash_of_isEdge (hlost e' List.mem_cons_self)] at hd
        cases hd
    | cons e' rest =>
      obtain ⟨rfl, -⟩ := List.cons.inj hrest
      exact .inl ⟨rest, rfl⟩

theorem fromUnknown_ok_of_not {scheme text : List Char}
    (h : ∀ authority, text ≠ '/' :: '/' :: authority) : ∃ u, fromUnknown scheme text = .ok u := by
  unfold fromUnknown
  split
  · exact absurd rfl (h _)
  · exact ⟨_, rfl⟩
  · exact ⟨_, rfl⟩

/-- The slash of the path makes an authority of its name, if a slash stands before it. -/
theorem fromUnknown_slash_ok (hspecial : isSpecial scheme = false) :
    ∃ u, fromUnknown scheme ('/' :: rootPath) = .ok u := by
  have huser : splitUserinfo (isSpecial scheme) "rest".toList = (none, "rest".toList) := by
    rw [hspecial]
    decide
  have hhost : splitHost (isSpecial scheme) false "rest".toList = ("rest".toList, []) := by
    rw [hspecial]
    decide
  refine (fromAuthority_ok_iff huser hhost).mpr ⟨rfl, nofun, fun _ => ?_, _, rfl⟩
  rw [hspecial]
  exact ⟨_, rfl⟩

theorem fromScheme_unknown (hspecial : isSpecial scheme = false)
    (hok : ∃ u, fromScheme scheme rest = .ok u) (hlost : ∀ c ∈ lost, isEdge c = true) :
    (∃ v, fromScheme scheme (rest ++ (lost ++ rootPath)) = .ok v) ↔
      ∀ authority, EndsIn scheme rest authority → Fits scheme authority lost := by
  have hfile : scheme ≠ fileScheme := by
    rintro rfl
    cases hspecial
  have hunknown (text : List Char) : fromScheme scheme text = fromUnknown scheme text := by
    rw [fromScheme, if_neg hfile, hspecial, if_neg Bool.false_ne_true]
  simp only [hunknown] at hok ⊢
  by_cases hauthority : ∃ authority, rest = '/' :: '/' :: authority
  · obtain ⟨authority, rfl⟩ := hauthority
    refine (fromAuthority_append_iff hfile hok hlost "rest".toList).trans ?_
    rw [hspecial]
    constructor
    · intro h authority' hends
      generalize hrest : '/' :: '/' :: authority = rest at hends
      cases hends with
      | known hspecial' =>
        rw [hspecial] at hspecial'
        cases hspecial'
      | file => exact absurd rfl hfile
      | unknown _ hopen =>
        cases hrest
        exact h hopen
    · intro h hopen
      exact h authority (.unknown hspecial hopen)
  · refine iff_of_true ?_ fun authority hends => ?_
    · by_cases hslashes : ∃ more, rest ++ (lost ++ rootPath) = '/' :: '/' :: more
      · obtain ⟨more, hmore⟩ := hslashes
        rcases slashes_of_append hlost rfl rfl hmore with hrest | ⟨rfl, rfl⟩
        · exact absurd hrest hauthority
        · exact fromUnknown_slash_ok hspecial
      · exact fromUnknown_ok_of_not fun more hmore => hslashes ⟨more, hmore⟩
    · cases hends with
      | known hspecial' =>
        rw [hspecial] at hspecial'
        cases hspecial'
      | file => exact absurd rfl hfile
      | unknown => exact absurd ⟨_, rfl⟩ hauthority

theorem fromFile_slashes_ok_iff {c d : Char} {text host : List Char} (hc : isSlash true c = true)
    (hd : isSlash true d = true) (hhost : text.takeWhile (!endsAuthority true ·) = host) :
    (∃ u, fromFile (c :: d :: text) = .ok u) ↔
      (isDrive host = false → host ≠ [] → ∃ h, Host.parse host = .ok h) := by
  simp only [fromFile, hhost, hc, hd, Bool.true_and]
  cases isDrive host with
  | true => exact iff_of_true ⟨_, rfl⟩ nofun
  | false =>
    cases host with
    | nil => exact iff_of_true ⟨_, rfl⟩ fun _ h => absurd rfl h
    | cons e host =>
      rw [imp_iff_right rfl, imp_iff_right (List.cons_ne_nil e host)]
      exact exists_bind.trans (exists_congr fun _ => and_iff_left ⟨_, rfl⟩)

theorem fromFile_ok_of_not {text : List Char}
    (h : ∀ c d rest, text = c :: d :: rest → isSlash true c = true → isSlash true d = false) :
    ∃ u, fromFile text = .ok u := by
  match text with
  | [] => exact ⟨_, rfl⟩
  | [c] => exact ⟨_, rfl⟩
  | c :: d :: rest =>
    have hslashes : (isSlash true c && isSlash true d) = false :=
      Bool.and_eq_false_imp.mpr (h c d rest rfl)
    simp only [fromFile, hslashes, Bool.false_and, Bool.false_eq_true, if_false]
    exact ⟨_, rfl⟩

/-- A drive is no longer one with blanks behind it. -/
theorem isDrive_append (authority : List Char) (hne : lost ≠ [])
    (hlost : ∀ c ∈ lost, isEdge c = true) : isDrive (authority ++ lost) = false := by
  unfold isDrive
  split
  next c d hdrive =>
    have hlast : (authority ++ lost).getLast? = some d := by rw [hdrive]; rfl
    rw [List.getLast?_append_of_ne_nil _ hne] at hlast
    have hd := hlost d (List.mem_of_getLast? hlast)
    rw [Bool.and_eq_false_imp]
    rintro -
    rw [Bool.eq_false_iff]
    intro hmark
    rw [Bool.or_eq_true, beq_iff_eq, beq_iff_eq] at hmark
    rcases hmark with rfl | rfl <;> cases hd
  next => rfl

theorem fits_file_iff : Fits fileScheme authority lost ↔
    (lost ≠ [] → ∃ h, Host.parse (authority ++ lost) = .ok h) := by
  have hparts : hostPort fileScheme authority = (authority, []) := if_pos rfl
  constructor
  · rintro ⟨-, hhost, -⟩ hne
    rw [hparts] at hhost
    exact hhost hne rfl
  · intro hhost
    refine ⟨nofun, fun hne _ => ?_, fun _ hport => ?_⟩
    · rw [hparts]
      exact hhost hne
    · rw [hparts] at hport
      exact absurd rfl hport

/-- The authority of a file is a host, unless it is a drive. -/
theorem fromFile_append_iff_fits {c d : Char} (hc : isSlash true c = true)
    (hd : isSlash true d = true) (hopen : ∀ c ∈ authority, endsAuthority true c = false)
    (hok : ∃ u, fromFile (c :: d :: authority) = .ok u) (hlost : ∀ c ∈ lost, isEdge c = true) :
    (∃ v, fromFile (c :: d :: (authority ++ (lost ++ rootPath))) = .ok v) ↔
      Fits fileScheme authority lost := by
  have hopen' : ∀ c ∈ authority ++ lost, endsAuthority true c = false :=
    List.forall_mem_append.mpr ⟨hopen, fun c hc => endsAuthority_of_isEdge (hlost c hc)⟩
  have hpath : EndsAuthority rootPath := by
    rintro _ ⟨⟩
    rfl
  have hnil : EndsAuthority [] := nofun
  have hbefore := (span_place hopen hnil).1
  rw [List.append_nil] at hbefore
  rw [fromFile_slashes_ok_iff hc hd hbefore] at hok
  rw [← List.append_assoc, fromFile_slashes_ok_iff hc hd (span_place hopen' hpath).1,
    fits_file_iff]
  by_cases hne : lost = []
  · subst hne
    rw [List.append_nil]
    exact iff_of_true hok (absurd rfl)
  · rw [imp_iff_right (isDrive_append authority hne hlost), imp_iff_right hne,
      imp_iff_right fun hempty => hne (List.append_eq_nil_iff.mp hempty).2]

/-- Up to the end of the authority nothing changes behind it. -/
theorem fromFile_append_of_ends {c d : Char} (hc : isSlash true c = true)
    (hd : isSlash true d = true) (hends : ∃ c ∈ authority, endsAuthority true c = true)
    (hok : ∃ u, fromFile (c :: d :: authority) = .ok u) (more : List Char) :
    ∃ v, fromFile (c :: d :: (authority ++ more)) = .ok v := by
  have htake : (authority ++ more).takeWhile (!endsAuthority true ·) =
      authority.takeWhile (!endsAuthority true ·) :=
    takeWhile_append_of_exists (by simpa using hends) more
  rw [fromFile_slashes_ok_iff hc hd htake]
  exact (fromFile_slashes_ok_iff hc hd rfl).mp hok

/-- The slash of the path makes a host of its name, if a slash stands before it. -/
theorem fromFile_slash_ok {c : Char} (hc : isSlash true c = true) :
    ∃ u, fromFile (c :: rootPath) = .ok u := by
  have hhost : "rest".toList.takeWhile (!endsAuthority true ·) = "rest".toList := by decide
  exact (fromFile_slashes_ok_iff hc rfl hhost).mpr fun _ _ => ⟨_, rfl⟩

theorem fromScheme_file (hok : ∃ u, fromScheme fileScheme rest = .ok u)
    (hlost : ∀ c ∈ lost, isEdge c = true) :
    (∃ v, fromScheme fileScheme (rest ++ (lost ++ rootPath)) = .ok v) ↔
      ∀ authority, EndsIn fileScheme rest authority → Fits fileScheme authority lost := by
  have hscheme (text : List Char) : fromScheme fileScheme text = fromFile text := by
    rw [fromScheme, if_pos rfl]
  simp only [hscheme] at hok ⊢
  have hinv {authority : List Char} (hends : EndsIn fileScheme rest authority) : ∃ c d,
      rest = c :: d :: authority ∧ isSlash true c = true ∧ isSlash true d = true ∧
        ∀ c ∈ authority, endsAuthority true c = false := by
    generalize hfile : fileScheme = scheme at hends
    cases hends with
    | known _ hfile' => exact absurd hfile.symm hfile'
    | file hc hd hopen => exact ⟨_, _, rfl, hc, hd, hopen⟩
    | unknown hspecial =>
      subst hfile
      cases hspecial
  by_cases hslashes : ∃ c d authority, rest = c :: d :: authority ∧ isSlash true c = true ∧
    isSlash true d = true
  · obtain ⟨c, d, authority, rfl, hc, hd⟩ := hslashes
    by_cases hopen : ∀ c ∈ authority, endsAuthority true c = false
    · refine (fromFile_append_iff_fits hc hd hopen hok hlost).trans ?_
      constructor
      · intro h authority' hends
        obtain ⟨_, _, ⟨⟩, -⟩ := hinv hends
        exact h
      · intro h
        exact h authority (.file hc hd hopen)
    · refine iff_of_true (fromFile_append_of_ends hc hd (by simpa using hopen) hok _) ?_
      intro authority' hends
      obtain ⟨_, _, ⟨⟩, -, -, hopen'⟩ := hinv hends
      exact absurd hopen' hopen
  · refine iff_of_true ?_ fun authority hends => ?_
    · by_cases hmore : ∃ c d more, rest ++ (lost ++ rootPath) = c :: d :: more ∧
        isSlash true c = true ∧ isSlash true d = true
      · obtain ⟨c, d, more, hmore, hc, hd⟩ := hmore
        rcases slashes_of_append hlost hc hd hmore with ⟨authority, hrest⟩ | ⟨rfl, rfl⟩
        · exact absurd ⟨c, d, authority, hrest, hc, hd⟩ hslashes
        · exact fromFile_slash_ok hc
      · exact fromFile_ok_of_not fun c d more h hc =>
          Bool.eq_false_iff.mpr fun hd => hmore ⟨c, d, more, h, hc, hd⟩
    · obtain ⟨c, d, hrest, hc, hd, -⟩ := hinv hends
      exact absurd ⟨c, d, authority, hrest, hc, hd⟩ hslashes

theorem fromScheme_append_iff (hok : ∃ u, fromScheme scheme rest = .ok u)
    (hlost : ∀ c ∈ lost, isEdge c = true) :
    (∃ v, fromScheme scheme (rest ++ (lost ++ rootPath)) = .ok v) ↔
      ∀ authority, EndsIn scheme rest authority → Fits scheme authority lost := by
  by_cases hfile : scheme = fileScheme
  · subst hfile
    exact fromScheme_file hok hlost
  · cases hspecial : isSpecial scheme with
    | true => exact fromScheme_known hspecial hfile hok hlost "rest".toList
    | false => exact fromScheme_unknown hspecial hok hlost

end Schemes

/-! ## Whole addresses -/

section Whole

variable {text : List Char}

/-- The characters at the end of a text that count only if something is written behind it. -/
def leftOut (text : List Char) : List Char :=
  ((text.reverse.takeWhile isEdge).reverse).filter (!isBreak ·)

theorem isEdge_of_mem_leftOut {c : Char} (h : c ∈ leftOut text) : isEdge c = true :=
  List.mem_takeWhile_imp (List.mem_reverse.mp (List.mem_filter.mp h).1)

theorem leftOut_of_last {c : Char} (hlast : text.getLast? = some c) (hc : isEdge c = false) :
    leftOut text = [] := by
  obtain ⟨init, rfl⟩ := List.getLast?_eq_some_iff.mp hlast
  rw [leftOut, List.reverse_append, List.reverse_singleton, List.singleton_append,
    List.takeWhile_cons_of_neg (by simp [hc])]
  rfl

/-- What is written behind a text brings back what was left out of it. -/
theorem clean_append_leftOut (htext : ∃ c ∈ text, isEdge c = false) {more : List Char}
    (hne : more ≠ []) (hmore : ∀ d ∈ more, isEdge d = false) :
    clean (text ++ more) = clean text ++ (leftOut text ++ more) := by
  have hwhole : text.takeWhile isEdge ++ text.dropWhile isEdge = text :=
    List.takeWhile_append_dropWhile
  have hedges : text.reverse.takeWhile isEdge =
      (text.dropWhile isEdge).reverse.takeWhile isEdge := by
    obtain ⟨c, hmem, hc⟩ := htext
    have hdrop : c ∈ text.dropWhile isEdge := by
      rw [← hwhole, List.mem_append] at hmem
      refine hmem.resolve_left fun h => ?_
      rw [List.mem_takeWhile_imp h] at hc
      cases hc
    have hreverse : text.reverse =
        (text.dropWhile isEdge).reverse ++ (text.takeWhile isEdge).reverse := by
      rw [← List.reverse_append, hwhole]
    rw [hreverse]
    exact takeWhile_append_of_exists ⟨c, List.mem_reverse.mpr hdrop, hc⟩ _
  have hsplit : text.dropWhile isEdge =
      Text.dropEnd isEdge (text.dropWhile isEdge) ++ (text.reverse.takeWhile isEdge).reverse := by
    rw [hedges, Text.dropEnd, ← List.reverse_append, List.takeWhile_append_dropWhile,
      List.reverse_reverse]
  have hclean : clean text ++ leftOut text = (text.dropWhile isEdge).filter (!isBreak ·) := by
    rw [clean, leftOut, ← List.filter_append, ← hsplit]
  rw [clean_append text hne hmore, ← List.append_assoc, hclean]

/-- A path fits behind the text: where it comes into an authority, it fits there with all that was
left out of the text before. -/
def TakesPath (text : List Char) : Prop :=
  ∀ scheme rest authority, scheme? (clean text) = some (scheme, rest) →
    EndsIn scheme rest authority → Fits scheme authority (leftOut text)

/-- Only a text that ends in a control or a blank, or in `@`, may not take a path. -/
theorem takesPath_of_last {c : Char} (hlast : text.getLast? = some c) (hc : isEdge c = false)
    (hat : c ≠ '@') : TakesPath text := by
  intro scheme rest authority hscheme hends
  rw [leftOut_of_last hlast hc]
  refine ⟨fun _ _ hauthority => ?_, absurd rfl, absurd rfl⟩
  subst hauthority
  have hcleanLast := (clean_append_of_last hlast hc).1
  obtain ⟨_, _, htext, -⟩ := scheme?_eq_some_iff.mp hscheme
  have hrest : rest.getLast? = some '@' := by
    cases hends with
    | known => exact List.getLast?_concat
    | file => rfl
    | unknown => rfl
  have hne : rest ≠ [] := by rintro rfl; cases hrest
  rw [htext, List.append_cons, List.getLast?_append_of_ne_nil _ hne, hrest] at hcleanLast
  cases hcleanLast
  exact hat rfl

/-- **The path of the interface behind an address** makes an address again exactly if it fits. -/
theorem parse_append_iff (hok : ∃ u, parse text = .ok u) :
    (∃ v, parse (text ++ rootPath) = .ok v) ↔ TakesPath text := by
  cases hscheme : scheme? (clean text) with
  | none =>
    simp only [parse, hscheme] at hok
    cases hok.choose_spec
  | some parts =>
    obtain ⟨scheme, rest⟩ := parts
    have htext : ∃ c ∈ text, isEdge c = false := by
      by_contra hnone
      have hall : ∀ c ∈ text, isEdge c = true := by simpa using hnone
      rw [clean, List.dropWhile_eq_nil_iff.mpr hall] at hscheme
      cases hscheme
    have hpath : ∀ d ∈ rootPath, isEdge d = false := by simp [rootPath, isEdge]
    obtain ⟨c, name, hparts, hname⟩ := scheme?_eq_some_iff.mp hscheme
    have hscheme' : scheme? (clean (text ++ rootPath)) =
        some (scheme, rest ++ (leftOut text ++ rootPath)) := by
      rw [clean_append_leftOut htext (by decide) hpath, hparts]
      exact scheme?_eq_some_iff.mpr ⟨c, name, by simp, hname⟩
    simp only [parse, hscheme, hscheme'] at hok ⊢
    rw [fromScheme_append_iff hok fun c => isEdge_of_mem_leftOut]
    constructor
    · intro h scheme' rest' authority hscheme'' hends
      rw [hscheme] at hscheme''
      cases hscheme''
      exact h authority hends
    · intro h authority hends
      exact h scheme rest authority hscheme hends

end Whole

end OpenPulls.Url
