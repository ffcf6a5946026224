import Mathlib.Data.List.TakeWhile
import OpenPulls.Proofs.Url.Segments

/-!
# Addresses with a plain host

An address of the scheme `http` with a plain host and a path of inert segments is read as it is
written (`Url.parse_http`, `Url.finish_pathText`): the host goes to the reader of hosts, and each
segment stays as it is, unless it is one of dots.
-/

namespace OpenPulls

open Rest (isInert)

/-- A host name that needs no reading but for the case of letters. -/
structure IsPlainHost (host : List Char) : Prop where
  nonempty : host ≠ []
  plain : Domain.isPlainName host = true

/-! ## Separators -/

namespace Domain

variable {p : Char → Bool}

theorem splitWhere_ne_nil (text : List Char) : splitWhere p text ≠ [] := by
  cases text with
  | nil => exact List.cons_ne_nil _ _
  | cons c text =>
    rw [splitWhere]
    split
    · exact List.cons_ne_nil _ _
    · split <;> exact List.cons_ne_nil _ _

theorem splitWhere_cons_of_pos {c : Char} (hc : p c = true) (text : List Char) :
    splitWhere p (c :: text) = [] :: splitWhere p text := by
  rw [splitWhere, if_pos hc]

theorem splitWhere_cons_of_neg {c : Char} (hc : p c = false) {text : List Char}
    {part : List Char} {parts : List (List Char)} (h : splitWhere p text = part :: parts) :
    splitWhere p (c :: text) = (c :: part) :: parts := by
  rw [splitWhere, hc, if_neg Bool.false_ne_true, h]

/-- A separator ends the parts before it. -/
theorem splitWhere_append {c : Char} (hc : p c = true) (front text : List Char) :
    splitWhere p (front ++ c :: text) = splitWhere p front ++ splitWhere p text := by
  induction front with
  | nil => exact splitWhere_cons_of_pos hc text
  | cons d front ih =>
    rw [List.cons_append]
    cases hd : p d with
    | true => rw [splitWhere_cons_of_pos hd, splitWhere_cons_of_pos hd, ih, List.cons_append]
    | false =>
      obtain ⟨part, parts, hparts⟩ := List.exists_cons_of_ne_nil (splitWhere_ne_nil (p := p) front)
      rw [hparts, List.cons_append] at ih
      rw [splitWhere_cons_of_neg hd hparts, splitWhere_cons_of_neg hd ih, List.cons_append]

/-- A text without separators is one part. -/
theorem splitWhere_of_forall {text : List Char} (h : ∀ c ∈ text, p c = false) :
    splitWhere p text = [text] := by
  induction text with
  | nil => rfl
  | cons c text ih =>
    rw [List.forall_mem_cons] at h
    exact splitWhere_cons_of_neg h.1 (ih h.2)

/-- A text that begins with a separator has a last one. -/
theorem exists_last_separator {c : Char} (hc : p c = true) (text : List Char) :
    ∃ front d s, c :: text = front ++ d :: s ∧ p d = true ∧ ∀ e ∈ s, p e = false := by
  induction text generalizing c with
  | nil => exact ⟨[], c, [], rfl, hc, List.forall_mem_nil _⟩
  | cons e text ih =>
    cases he : p e with
    | true =>
      obtain ⟨front, d, s, h, hd, hs⟩ := ih he
      exact ⟨c :: front, d, s, by rw [h, List.cons_append], hd, hs⟩
    | false =>
      obtain ⟨front, d, s, h, hd, hs⟩ := ih hc
      cases front with
      | nil =>
        cases h
        exact ⟨[], c, e :: text, rfl, hc, List.forall_mem_cons.mpr ⟨he, hs⟩⟩
      | cons c' front =>
        cases h
        exact ⟨c :: e :: front, d, s, rfl, hd, hs⟩

/-- What stands behind the last separator is the last part. -/
theorem exists_last_part {c : Char} (hc : p c = true) (text : List Char) :
    ∃ front d s init, c :: text = front ++ d :: s ∧ p d = true ∧ (∀ e ∈ s, p e = false) ∧
      splitWhere p text = init ++ [s] := by
  obtain ⟨front, d, s, h, hd, hs⟩ := exists_last_separator hc text
  have hparts := congrArg (splitWhere p) h
  rw [splitWhere_cons_of_pos hc, splitWhere_append hd, splitWhere_of_forall hs] at hparts
  obtain ⟨part, init, hinit⟩ := List.exists_cons_of_ne_nil (splitWhere_ne_nil (p := p) front)
  rw [hinit, List.cons_append, List.cons.injEq] at hparts
  exact ⟨front, d, s, init, h, hd, hs, hparts.2⟩

end Domain

namespace Url

/-! ## Characters -/

/-- No part of an address begins or ends at the character. -/
def isInertInHost (c : Char) : Bool :=
  !isSlash true c && !endsPath c && !isEdge c && !isBreak c && !(['@', ':', '[', ']'].contains c)
    && Rest.inPlace c

theorem toNat_lt_of_isPlain {c : Char} (h : Domain.isPlain c = true) :
    c.toNat < 0x80 ∧ c ≠ '%' := by
  simp only [Domain.isPlain, Bool.or_eq_true, beq_iff_eq] at h
  rcases h with (h | rfl) | rfl
  · refine ⟨toNat_lt_of_isAlphanum h, ?_⟩
    rintro rfl
    cases h
  · decide
  · decide

theorem isInertInHost_of_isPlain {c : Char} (h : Domain.isPlain c = true) :
    isInertInHost c = true := by
  exact forall_ascii (P := fun c => Domain.isPlain c = true → isInertInHost c = true)
    (by decide +kernel) (toNat_lt_of_isPlain h).1 h

/-- What a character of a host is not. -/
theorem isInertInHost_iff {c : Char} : isInertInHost c = true ↔
    (endsAuthority true c = false ∧ isEdge c = false ∧ isBreak c = false) ∧
      c ∉ ['@', ':', '[', ']'] ∧ Rest.inPlace c = true := by
  simp only [isInertInHost, endsAuthority, Bool.and_eq_true, Bool.not_eq_true',
    Bool.or_eq_false_iff, List.contains_eq_mem, decide_eq_false_iff_not, and_assoc]

/-! ## Parts -/

/-- A path of segments as it is written. -/
abbrev pathText (segments : List (List Char)) : List Char := segments.flatMap ('/' :: ·)

theorem clean_of_forall {text : List Char} (h : ∀ c ∈ text, isEdge c = false ∧ isBreak c = false) :
    clean text = text := by
  have hdrop : ∀ l : List Char, (∀ c ∈ l, isEdge c = false) → l.dropWhile isEdge = l := by
    intro l hl
    cases l with
    | nil => rfl
    | cons c l => rw [List.dropWhile_cons_of_neg (by simp [hl c List.mem_cons_self])]
  rw [clean, Text.dropEnd, hdrop text fun c hc => (h c hc).1, hdrop text.reverse ?_,
    List.reverse_reverse, List.filter_eq_self.mpr]
  · intro c hc
    rw [(h c hc).2, Bool.not_false]
  · intro c hc
    exact (h c (List.mem_reverse.mp hc)).1

/-- An authority ends where the text begins. -/
def EndsAuthority (text : List Char) : Prop := ∀ c ∈ text.head?, endsAuthority true c = true

theorem endsAuthority_pathText (segments : List (List Char)) :
    EndsAuthority (pathText segments) := by
  cases segments with
  | nil => nofun
  | cons s segments =>
    rintro c ⟨⟩
    rfl

theorem span_place {place rest : List Char} (hplace : ∀ c ∈ place, endsAuthority true c = false)
    (hrest : EndsAuthority rest) :
    (place ++ rest).takeWhile (!endsAuthority true ·) = place ∧
      (place ++ rest).dropWhile (!endsAuthority true ·) = rest := by
  have hpos : ∀ c ∈ place, (!endsAuthority true c) = true := fun c hc => by simp [hplace c hc]
  rw [List.takeWhile_append_of_pos hpos, List.dropWhile_append_of_pos hpos]
  cases rest with
  | nil => simp
  | cons c rest =>
    have hc : endsAuthority true c = true := hrest c rfl
    rw [List.takeWhile_cons_of_neg (by simp [hc]), List.dropWhile_cons_of_neg (by simp [hc]),
      List.append_nil]
    exact ⟨rfl, rfl⟩

section Parts

variable {host rest : List Char}

theorem splitUserinfo_host (hhost : ∀ c ∈ host, isInertInHost c = true)
    (hrest : EndsAuthority rest) :
    splitUserinfo true (host ++ rest) = (none, host ++ rest) := by
  have hat : host.contains '@' = false := by
    rw [List.contains_eq_mem, decide_eq_false_iff_not]
    intro h
    exact (isInertInHost_iff.mp (hhost _ h)).2.1 (by decide)
  have htake := (span_place (fun c hc => (isInertInHost_iff.mp (hhost c hc)).1.1) hrest).1
  rw [splitUserinfo, htake]
  simp only [hat, Bool.false_eq_true, if_false]

theorem splitHost_host (hhost : ∀ c ∈ host, isInertInHost c = true) (hrest : EndsAuthority rest) :
    splitHost true false (host ++ rest) = (host, rest) := by
  induction host with
  | nil =>
    cases rest with
    | nil => rfl
    | cons c rest =>
      have hc : endsAuthority true c = true := hrest c rfl
      rw [List.nil_append, splitHost, hc, Bool.true_or, if_pos rfl]
  | cons c host ih =>
    rw [List.forall_mem_cons] at hhost
    obtain ⟨⟨hends, -⟩, hmarks, -⟩ := isInertInHost_iff.mp hhost.1
    simp only [List.mem_cons, List.not_mem_nil, or_false, not_or] at hmarks
    obtain ⟨-, hcolon, hopen, hclose⟩ := hmarks
    rw [List.cons_append, splitHost]
    simp [hends, hcolon, hopen, hclose, ih hhost.2]

theorem port_path (hrest : EndsAuthority rest) : port rest = .ok (none, rest) := by
  cases rest with
  | nil => rfl
  | cons c rest =>
    have hc : endsAuthority true c = true := hrest c rfl
    have hne : c ≠ ':' := by
      rintro rfl
      cases hc
    simp [port, hne]

end Parts

/-- The scheme `http`. -/
def httpScheme : List Char := "http".toList

/-- What an authority is that names only a host. -/
def Authority.ofHost (host : Host) : Authority := ⟨[], [], some host, none⟩

theorem fromAuthority_host {host rest : List Char} (hne : host ≠ [])
    (hhost : ∀ c ∈ host, isInertInHost c = true) (hrest : EndsAuthority rest) :
    fromAuthority httpScheme (host ++ rest) =
      (Host.parse host).map fun h => finish httpScheme (some (.ofHost h)) [] rest := by
  have hspecial : isSpecial httpScheme = true := rfl
  have hempty : host.isEmpty = false := by simpa using hne
  simp only [fromAuthority, hspecial, splitUserinfo_host hhost hrest, splitHost_host hhost hrest,
    hempty, if_true]
  cases Host.parse host with
  | error e => rfl
  | ok h =>
    simp only [port_path hrest]
    rfl

/-! ## Paths -/

section Path

variable {segments : List (List Char)}

theorem isInert_iff {c : Char} : isInert c = true ↔
    Percent.inPath c = true ∧ isSlash true c = false ∧ endsPath c = false ∧ isEdge c = false ∧
      isBreak c = false := by
  simp only [isInert, Bool.and_eq_true, Bool.not_eq_true', and_assoc]

/-- The parts of a path that inert segments are written behind. -/
theorem splitWhere_pathText (text : List Char)
    (hsegments : ∀ s ∈ segments, ∀ c ∈ s, isInert c = true) :
    Domain.splitWhere (isSlash true) (text ++ pathText segments) =
      Domain.splitWhere (isSlash true) text ++ segments := by
  induction segments generalizing text with
  | nil => rw [pathText, List.flatMap_nil, List.append_nil, List.append_nil]
  | cons s segments ih =>
    rw [List.forall_mem_cons] at hsegments
    have hs : Domain.splitWhere (isSlash true) s = [s] :=
      Domain.splitWhere_of_forall fun c hc => (isInert_iff.mp (hsegments.1 c hc)).2.1
    have hpath : pathText (s :: segments) = '/' :: (s ++ pathText segments) := List.flatMap_cons
    rw [hpath, Domain.splitWhere_append (by decide), ih s hsegments.2, hs, List.singleton_append]

theorem addSegments_of_forall (path : List (List Char))
    (hsegments : ∀ s ∈ segments, ∀ c ∈ s, isInert c = true)
    (hdots : ∀ s ∈ segments, isDot s = false ∧ isDoubleDot s = false) :
    addSegments path segments = path ++ segments := by
  induction segments generalizing path with
  | nil => rw [addSegments, List.append_nil]
  | cons s segments ih =>
    rw [List.forall_mem_cons] at hsegments hdots
    have hs : Percent.encode Percent.inPath s = s :=
      Percent.encode_of_forall fun c hc => (isInert_iff.mp (hsegments.1 c hc)).1
    rw [addSegments, hdots.1.1, hdots.1.2]
    simp only [Bool.false_eq_true, if_false, hs]
    rw [ih _ hsegments.2 hdots.2, List.append_assoc, List.singleton_append]

theorem endsPath_of_mem_pathText (hsegments : ∀ s ∈ segments, ∀ c ∈ s, isInert c = true) :
    ∀ c ∈ pathText segments, endsPath c = false ∧ isEdge c = false ∧ isBreak c = false := by
  intro c hc
  obtain ⟨s, hs, hc⟩ := List.mem_flatMap.mp hc
  rcases List.mem_cons.mp hc with rfl | hc
  · decide
  · exact (isInert_iff.mp (hsegments s hs c hc)).2.2

/-- A text behind an authority that is a path is read as its parts, but for the steps among them. -/
theorem finish_slash {scheme : List Char} (hspecial : isSpecial scheme = true)
    (authority : Option Authority) {c : Char} {text : List Char} (hc : isSlash true c = true)
    (htext : ∀ d ∈ c :: text, endsPath d = false) :
    finish scheme authority [] (c :: text) =
      ⟨scheme, authority, .segments (addSegments [] (Domain.splitWhere (isSlash true) text)), none,
        none⟩ := by
  have hends : ∀ d ∈ c :: text, (!endsPath d) = true := by
    intro d hd
    rw [htext d hd, Bool.not_false]
  simp only [finish, hspecial, List.takeWhile_eq_self_iff.mpr hends,
    List.dropWhile_eq_nil_iff.mpr hends, hc, if_true, List.isEmpty_cons, Bool.false_and,
    Bool.false_eq_true, if_false]
  rfl

/-- A path of inert segments is read as those segments, but for the steps among them. -/
theorem finish_pathText {scheme : List Char} (hspecial : isSpecial scheme = true)
    (authority : Option Authority) (hne : segments ≠ [])
    (hsegments : ∀ s ∈ segments, ∀ c ∈ s, isInert c = true) :
    finish scheme authority [] (pathText segments) =
      ⟨scheme, authority, .segments (addSegments [] segments), none, none⟩ := by
  have hends : ∀ c ∈ pathText segments, endsPath c = false := fun c hc =>
    (endsPath_of_mem_pathText hsegments c hc).1
  obtain ⟨s, rest, rfl⟩ := List.exists_cons_of_ne_nil hne
  have hparts := List.forall_mem_cons.mp hsegments
  have hs : Domain.splitWhere (isSlash true) s = [s] :=
    Domain.splitWhere_of_forall fun c hc => (isInert_iff.mp (hparts.1 c hc)).2.1
  have hpath : pathText (s :: rest) = '/' :: (s ++ pathText rest) := List.flatMap_cons
  rw [hpath] at hends ⊢
  rw [finish_slash hspecial authority (by decide) hends, splitWhere_pathText s hparts.2, hs,
    List.singleton_append]

end Path

/-! ## Hosts -/

section Host

variable {host : List Char}

theorem isPlain_of_isPlainHost (h : IsPlainHost host) : ∀ c ∈ host, Domain.isPlain c = true := by
  have hplain := h.plain
  rw [Domain.isPlainName, Bool.and_eq_true, List.all_eq_true] at hplain
  exact hplain.1

theorem isInertInHost_of_isPlainHost (h : IsPlainHost host) :
    ∀ c ∈ host, isInertInHost c = true := fun c hc =>
  isInertInHost_of_isPlain (isPlain_of_isPlainHost h c hc)

theorem ofText?_of_isPlainHost (h : IsPlainHost host) :
    Domain.ofText? host = some (host.map Char.toLower) := by
  have hdecode := Percent.decode_encode (fun _ => toNat_lt_of_isPlain) host
  rw [Percent.encode_of_forall (isPlain_of_isPlainHost h)] at hdecode
  rw [Domain.ofText?, hdecode, Text.Utf8.decodeText?_encode, Option.bind_eq_bind, Option.bind_some,
    Domain.ascii?, if_pos h.plain]

theorem inPlace_toLower {c : Char} (h : Domain.isPlain c = true) :
    Rest.inPlace c.toLower = true :=
  forall_ascii (P := fun c => Domain.isPlain c = true → Rest.inPlace c.toLower = true)
    (by decide +kernel) (toNat_lt_of_isPlain h).1 h

theorem inPlace_digit {c : Char} {n : Nat} (h : c ∈ Host.digits 10 n) : Rest.inPlace c = true := by
  have hdigit : c.isDigit = true := Nat.isDigit_of_mem_toDigits (by decide) (by decide) h
  have halphanum : c.isAlphanum = true := by rw [Char.isAlphanum, hdigit, Bool.or_true]
  exact forall_ascii (P := fun c => c.isDigit = true → Rest.inPlace c = true) (by decide +kernel)
    (toNat_lt_of_isAlphanum halphanum) hdigit

theorem inPlace_ipv4 (address : Nat) :
    ∀ c ∈ (Host.ipv4 address).text, Rest.inPlace c = true := by
  intro c hc
  simp only [Host.text, List.map_cons, List.map_nil, List.intercalate_cons_cons,
    List.intercalate_singleton, List.append_assoc, List.mem_append, List.mem_singleton] at hc
  rcases hc with hc | rfl | hc | rfl | hc | rfl | hc
  all_goals first | exact inPlace_digit hc | decide

/-- What a plain host is read as can be written into a request. -/
theorem inPlace_of_parse (h : IsPlainHost host) {parsed : Host}
    (hparsed : Host.parse host = .ok parsed) : ∀ c ∈ parsed.text, Rest.inPlace c = true := by
  rw [Host.parse, ofText?_of_isPlainHost h] at hparsed
  · split at hparsed
    next => cases hparsed
    next => cases hparsed
    next name hname =>
      cases hname
      split at hparsed
      next =>
        split at hparsed
        next address _ =>
          cases hparsed
          exact inPlace_ipv4 address
        next => cases hparsed
      next =>
        cases hparsed
        intro c hc
        obtain ⟨d, hd, rfl⟩ := List.mem_map.mp hc
        exact inPlace_toLower (isPlain_of_isPlainHost h d hd)
  · rintro rest rfl
    cases isPlain_of_isPlainHost h '[' List.mem_cons_self

end Host

/-! ## Addresses -/

/-- **An address with a plain host** goes to the reader of hosts, and is else taken as it stands. -/
theorem parse_http {host : List Char} {segments : List (List Char)} (hhost : IsPlainHost host)
    (hsegments : ∀ s ∈ segments, ∀ c ∈ s, isInert c = true) :
    parse ("http://".toList ++ host ++ pathText segments) =
      (Host.parse host).map fun h =>
        finish httpScheme (some (.ofHost h)) [] (pathText segments) := by
  have hinert := isInertInHost_of_isPlainHost hhost
  have hhttp : ∀ c ∈ "http://".toList, isEdge c = false ∧ isBreak c = false := by
    simp only [← Bool.not_eq_true', ← Bool.and_eq_true, ← List.all_eq_true]
    rfl
  have hclean : clean ("http://".toList ++ host ++ pathText segments) =
      'h' :: 't' :: 't' :: 'p' :: ':' :: '/' :: '/' :: (host ++ pathText segments) := by
    rw [List.append_assoc, clean_of_forall]
    · rfl
    · intro c hc
      rcases List.mem_append.mp hc with hc | hc
      · exact hhttp c hc
      rcases List.mem_append.mp hc with hc | hc
      · exact (isInertInHost_iff.mp (hinert c hc)).1.2
      · exact (endsPath_of_mem_pathText hsegments c hc).2
  have hscheme (text : List Char) : scheme? ('h' :: 't' :: 't' :: 'p' :: ':' :: text) =
      some (httpScheme, text) := rfl
  have hslashes (text : List Char) : fromScheme httpScheme ('/' :: '/' :: text) =
      fromAuthority httpScheme (text.dropWhile (isSlash true)) := rfl
  have hdrop :
      (host ++ pathText segments).dropWhile (isSlash true) = host ++ pathText segments := by
    obtain ⟨c, host, rfl⟩ := List.exists_cons_of_ne_nil hhost.nonempty
    have hends := (isInertInHost_iff.mp (hinert c List.mem_cons_self)).1.1
    rw [endsAuthority, Bool.or_eq_false_iff] at hends
    rw [List.cons_append, List.dropWhile_cons_of_neg (by simp [hends.1])]
  rw [parse, hclean, hscheme]
  simp only []
  rw [hslashes, hdrop, fromAuthority_host hhost.nonempty hinert (endsAuthority_pathText segments)]

end Url

end OpenPulls
