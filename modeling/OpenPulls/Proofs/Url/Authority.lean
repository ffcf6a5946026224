import OpenPulls.Proofs.Url.Extension

/-!
# When an authority is read

The parts of an authority are read from left to right, and any of them can be at fault. What is
written behind the authority belongs to the part that it ends in.

* `Readable`: the host and what stands behind it can be read.
* `fromAuthority_ok_iff`: an authority with its path is an address exactly if it is readable, and
  names no user in front of nothing.
* `splitUserinfo_append_of_notMem`, `splitHost_append_of_cons` and `splitHost_append_of_nil`: where
  the parts of an authority end that goes on.
* `readable_append`: what ends an authority makes no difference to what stands before it.

The readers are followed here for every scheme. `Url.parse_append` follows them for the known ones
only, and says which address is read.
-/

namespace OpenPulls

variable {α β ε : Type}

theorem exists_guard {c : Bool} {e : ε} {next : Unit → Except ε α} :
    (∃ a, (if c then throw e >>= next else next ()) = .ok a) ↔
      c = false ∧ ∃ a, next () = .ok a := by
  cases c with
  | true => exact iff_of_false nofun nofun
  | false => exact (and_iff_right rfl).symm

theorem exists_bind {x : Except ε α} {next : α → Except ε β} :
    (∃ b, (x >>= next) = .ok b) ↔ ∃ a, x = .ok a ∧ ∃ b, next a = .ok b := by
  cases x with
  | error e => exact iff_of_false nofun nofun
  | ok a =>
    constructor
    · intro h
      exact ⟨a, rfl, h⟩
    · rintro ⟨_, ⟨⟩, h⟩
      exact h

theorem exists_map {x : Except ε α} {f : α → β} :
    (∃ b, f <$> x = .ok b) ↔ ∃ a, x = .ok a := by
  cases x with
  | error e => exact iff_of_false nofun nofun
  | ok a => exact iff_of_true ⟨_, rfl⟩ ⟨_, rfl⟩

namespace Url

/-! ## When an authority is read -/

section Authority

/-- Reads a host. With an unknown scheme it may be any text that keeps to itself. -/
def hostOf (special : Bool) (text : List Char) : Except Fault Host :=
  if special then Host.parse text else Host.parseUnknown text

/-- Neither a user nor a password is named. -/
def namesNobody (userinfo : Option (List Char)) : Bool :=
  (Percent.encode Percent.inUserinfo ((userinfo.getD []).takeWhile (· ≠ ':'))).isEmpty &&
  (Percent.encode Percent.inUserinfo
    (((userinfo.getD []).dropWhile (· ≠ ':')).drop 1)).isEmpty

/-- The host and what stands behind it can be read, and a host is named where one must be. -/
structure Readable (special : Bool) (userinfo : Option (List Char)) (host behind : List Char) :
    Prop where
  named : host = [] → special = false ∧ behind.head? ≠ some ':' ∧ namesNobody userinfo = true
  host : host ≠ [] → ∃ h, hostOf special host = .ok h
  port : ∃ p, Url.port behind = .ok p

variable {scheme text : List Char}

theorem fromAuthority_ok_iff {userinfo : Option (List Char)} {rest host behind : List Char}
    (huser : splitUserinfo (isSpecial scheme) text = (userinfo, rest))
    (hhost : splitHost (isSpecial scheme) false rest = (host, behind)) :
    (∃ u, fromAuthority scheme text = .ok u) ↔
      (userinfo = some [] && rest.head?.any (endsAuthority (isSpecial scheme))) = false ∧
        Readable (isSpecial scheme) userinfo host behind := by
  simp only [fromAuthority, huser, hhost]
  refine exists_guard.trans (and_congr_right fun _ => exists_guard.trans ?_)
  cases host with
  | nil =>
    simp only [List.isEmpty_nil, Bool.true_and, if_true, pure_bind, Option.isNone_none]
    refine Iff.trans (and_congr_right fun _ => exists_guard.trans (and_congr_right fun _ =>
      exists_bind.trans (exists_congr fun _ => and_congr_right fun _ => exists_guard))) ?_
    constructor
    · rintro ⟨hspecial, hcolon, p, hp, hnobody, -⟩
      change (!namesNobody userinfo) = false at hnobody
      exact ⟨fun _ => ⟨hspecial, of_decide_eq_false hcolon, by simpa using hnobody⟩,
        absurd rfl, p, hp⟩
    · rintro ⟨hnamed, -, p, hp⟩
      obtain ⟨hspecial, hcolon, hnobody⟩ := hnamed rfl
      refine ⟨hspecial, decide_eq_false hcolon, p, hp, ?_, _, rfl⟩
      show (!namesNobody userinfo) = false
      rw [hnobody, Bool.not_true]
  | cons c host =>
    simp only [List.isEmpty_cons, Bool.false_and, Bool.false_eq_true, if_false]
    refine Iff.trans (and_congr_right fun _ => exists_bind) ?_
    constructor
    · rintro ⟨-, h, hh, hrest⟩
      obtain ⟨-, hrest⟩ := exists_guard.mp hrest
      obtain ⟨p, hp, -⟩ := exists_bind.mp hrest
      exact ⟨fun hnil => absurd hnil (List.cons_ne_nil c host), fun _ => exists_map.mp ⟨h, hh⟩, p, hp⟩
    · rintro ⟨-, hhost, p, hp⟩
      obtain ⟨h, hh⟩ := hhost (List.cons_ne_nil c host)
      refine ⟨trivial, some h, ?_, exists_guard.mpr ⟨rfl, exists_bind.mpr ⟨p, hp,
        exists_guard.mpr ⟨rfl, _, rfl⟩⟩⟩⟩
      show some <$> hostOf (isSpecial scheme) (c :: host) = _
      rw [hh]
      rfl

end Authority

/-! ## What is read where an authority goes on -/

section Behind

variable {special inside : Bool} {authority place host port more rest : List Char}

/-- A user is read as before, if what is written behind the authority names none. -/
theorem splitUserinfo_append_of_notMem (hopen : ∀ c ∈ authority, endsAuthority special c = false)
    (hat : '@' ∉ more.takeWhile (!endsAuthority special ·)) :
    splitUserinfo special (authority ++ more) =
      ((splitUserinfo special authority).1, (splitUserinfo special authority).2 ++ more) := by
  let written := more.takeWhile (!endsAuthority special ·)
  have hpos : ∀ c ∈ authority, (!endsAuthority special c) = true := fun c hc => by
    rw [hopen c hc, Bool.not_false]
  have htake : (authority ++ more).takeWhile (!endsAuthority special ·) = authority ++ written :=
    List.takeWhile_append_of_pos hpos
  have hdrop : (authority ++ more).dropWhile (!endsAuthority special ·) =
      more.dropWhile (!endsAuthority special ·) := List.dropWhile_append_of_pos hpos
  have hmore : written ++ more.dropWhile (!endsAuthority special ·) = more :=
    List.takeWhile_append_dropWhile
  have htake' : authority.takeWhile (!endsAuthority special ·) = authority :=
    List.takeWhile_eq_self_iff.mpr hpos
  have hdrop' : authority.dropWhile (!endsAuthority special ·) = [] :=
    List.dropWhile_eq_nil_iff.mpr hpos
  have hcontains : (authority ++ written).contains '@' = authority.contains '@' := by
    rw [Bool.eq_iff_iff, List.contains_iff_mem, List.contains_iff_mem, List.mem_append,
      or_iff_left hat]
  simp only [splitUserinfo, htake, hdrop, htake', hdrop', hcontains]
  cases authority.contains '@' with
  | false => rfl
  | true =>
    let behind := (authority.reverse.takeWhile (· ≠ '@')).reverse
    have hbehind : ((authority ++ written).reverse.takeWhile (· ≠ '@')).reverse =
        behind ++ written := by
      rw [List.reverse_append, List.takeWhile_append_of_pos, List.reverse_append,
        List.reverse_reverse]
      intro c hc
      rw [decide_eq_true_eq]
      rintro rfl
      exact hat (List.mem_reverse.mp hc)
    have hlength : authority.length - behind.length - 1 ≤ authority.length := by omega
    simp only [if_true, hbehind, List.append_nil, List.append_assoc, hmore, List.length_append,
      Nat.add_sub_add_right, List.take_append_of_le_length hlength]
    rfl

/-- A host that ends at a port ends there in every case. -/
theorem splitHost_append_of_cons {c : Char}
    (h : splitHost special inside place = (host, c :: port)) (more : List Char) :
    splitHost special inside (place ++ more) = (host, c :: port ++ more) := by
  induction place generalizing inside host with
  | nil => cases h
  | cons d place ih =>
    rw [List.cons_append, splitHost]
    rw [splitHost] at h
    split at h
    next hends =>
      cases h
      rw [if_pos hends]
      rfl
    next hends =>
      rw [if_neg hends]
      cases hplace : splitHost special (if d == '[' then true else if d == ']' then false else inside)
        place with
      | mk host' rest' =>
        simp only [hplace, Prod.mk.injEq] at h
        obtain ⟨rfl, rfl⟩ := h
        simp only [ih hplace]

/-- Otherwise it goes on up to the end of the authority. -/
theorem splitHost_append_of_nil (h : splitHost special inside place = (host, []))
    (hmore : ∀ c ∈ more, endsAuthority special c = false ∧ c ≠ ':')
    (hrest : ∀ c ∈ rest.head?, endsAuthority special c = true) :
    splitHost special inside (place ++ (more ++ rest)) = (host ++ more, rest) := by
  induction place generalizing inside host with
  | nil =>
    cases h
    rw [List.nil_append, List.nil_append]
    induction more generalizing inside with
    | nil =>
      cases rest with
      | nil => rfl
      | cons c rest => rw [List.nil_append, splitHost, hrest c rfl, Bool.true_or, if_pos rfl]
    | cons c more ih =>
      rw [List.forall_mem_cons] at hmore
      obtain ⟨⟨hends, hcolon⟩, hmore⟩ := hmore
      rw [List.cons_append, splitHost, hends, beq_eq_false_iff_ne.mpr hcolon, Bool.false_and,
        Bool.or_false, if_neg Bool.false_ne_true]
      simp only [ih hmore]
  | cons d place ih =>
    rw [List.cons_append, splitHost]
    rw [splitHost] at h
    split at h
    next hends => cases h
    next hends =>
      rw [if_neg hends]
      cases hplace : splitHost special (if d == '[' then true else if d == ']' then false else inside)
        place with
      | mk host' rest' =>
        simp only [hplace, Prod.mk.injEq] at h
        obtain ⟨rfl, rfl⟩ := h
        simp only [ih hplace, List.cons_append]

/-- A host ends at a colon or with the authority. -/
theorem splitHost_head {c : Char} (h : splitHost special inside place = (host, c :: port)) :
    c :: port <:+ place ∧ (endsAuthority special c = true ∨ c = ':') := by
  induction place generalizing inside host with
  | nil => cases h
  | cons d place ih =>
    rw [splitHost] at h
    split at h
    next hends =>
      cases h
      rw [Bool.or_eq_true, Bool.and_eq_true, beq_iff_eq] at hends
      exact ⟨List.suffix_refl _, hends.imp_right And.left⟩
    next =>
      cases hplace : splitHost special (if d == '[' then true else if d == ']' then false else inside)
        place with
      | mk host' rest' =>
        simp only [hplace, Prod.mk.injEq] at h
        obtain ⟨rfl, rfl⟩ := h
        obtain ⟨hsuffix, hc⟩ := ih hplace
        exact ⟨hsuffix.trans (List.suffix_cons d place), hc⟩

theorem port_ok_of_head (h : rest.head? ≠ some ':') : ∃ p, Url.port rest = .ok p := by
  unfold Url.port
  split
  · exact absurd rfl h
  · exact ⟨_, rfl⟩

theorem port_colon_ok_iff {digits : List Char} :
    (∃ p, Url.port (':' :: digits) = .ok p) ↔
      (∃ n, portOf (digits.takeWhile Char.isDigit) = .ok n) ∧
        EndsAuthority (digits.dropWhile Char.isDigit) := by
  simp only [Url.port]
  rw [exists_bind]
  cases digits.dropWhile Char.isDigit with
  | nil =>
    constructor
    · rintro ⟨n, hn, -⟩
      exact ⟨⟨n, hn⟩, fun c hc => by cases hc⟩
    · rintro ⟨⟨n, hn⟩, -⟩
      exact ⟨n, hn, _, rfl⟩
  | cons c rest =>
    have hends : EndsAuthority (c :: rest) ↔ endsAuthority true c = true := by
      simp [EndsAuthority]
    rw [hends]
    constructor
    · rintro ⟨n, hn, _, hrest⟩
      refine ⟨⟨n, hn⟩, ?_⟩
      by_contra hc
      simp only [hc] at hrest
      cases hrest
    · rintro ⟨⟨n, hn⟩, hc⟩
      exact ⟨n, hn, _, if_pos hc⟩

/-- What ends an authority makes no difference to what stands before it. -/
theorem readable_append {userinfo : Option (List Char)} (hport : ∀ c ∈ port.head?, c = ':')
    (hmore : EndsAuthority more) :
    Readable special userinfo host (port ++ more) ↔ Readable special userinfo host port := by
  have hhead : more.head? ≠ some ':' := by
    intro hcolon
    have hends := hmore ':' hcolon
    cases hends
  cases port with
  | nil =>
    rw [List.nil_append]
    have hnil : ∃ p, Url.port [] = .ok p := port_ok_of_head nofun
    constructor
    · rintro ⟨hnamed, hhost, -⟩
      exact ⟨fun h => ⟨(hnamed h).1, nofun, (hnamed h).2.2⟩, hhost, hnil⟩
    · rintro ⟨hnamed, hhost, -⟩
      exact ⟨fun h => ⟨(hnamed h).1, hhead, (hnamed h).2.2⟩, hhost, port_ok_of_head hhead⟩
  | cons c digits =>
    obtain rfl : c = ':' := hport c rfl
    obtain ⟨htake, hdrop⟩ := span_digits digits hmore
    have hok : (∃ p, Url.port (':' :: digits ++ more) = .ok p) ↔
        ∃ p, Url.port (':' :: digits) = .ok p := by
      rw [List.cons_append, port_colon_ok_iff, port_colon_ok_iff, htake, hdrop]
      refine and_congr_right fun _ => ?_
      cases digits.dropWhile Char.isDigit with
      | nil => exact iff_of_true hmore nofun
      | cons d rest => exact Iff.rfl
    constructor
    · rintro ⟨hnamed, hhost, hp⟩
      exact ⟨hnamed, hhost, hok.mp hp⟩
    · rintro ⟨hnamed, hhost, hp⟩
      exact ⟨hnamed, hhost, hok.mpr hp⟩

end Behind

end Url

end OpenPulls
