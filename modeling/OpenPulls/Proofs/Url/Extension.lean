import Mathlib.Data.List.Basic
import OpenPulls.Proofs.Url.Plain

/-!
# Addresses with a path behind them

What becomes of an address when a path is written behind it. Up to its path the address is read as
before (`parse_append`). If it has a query or a fragment, the path becomes a part of that
(`finish_append_of_ends`). Otherwise the path goes behind the one of the address
(`exists_continues`), whose last segment is then not at the end any more: if it was one of dots, it
leaves no empty segment behind.
-/

namespace OpenPulls

open Rest (isInert)

/-- Where `takeWhile` stops, what is written behind the list makes no difference. -/
theorem takeWhile_append_of_exists {α : Type} {p : α → Bool} {l : List α}
    (h : ∃ a ∈ l, p a = false) (more : List α) :
    (l ++ more).takeWhile p = l.takeWhile p := by
  rw [List.takeWhile_append, if_neg]
  intro hlength
  obtain ⟨a, ha, hp⟩ := h
  have hall := List.takeWhile_eq_self_iff.mp ((List.takeWhile_prefix p).eq_of_length hlength) a ha
  rw [hp] at hall
  cases hall

namespace Url

/-! ## Steps -/

section Steps

/-- What a segment does to a path that goes on behind it. -/
def stepInto (path : List (List Char)) (s : List Char) : List (List Char) :=
  if isDoubleDot s then path.dropLast
  else if isDot s then path
  else path ++ [Percent.encode Percent.inPath s]

/-- Segments that others follow. -/
theorem addSegments_append (path parts : List (List Char)) {segments : List (List Char)}
    (hne : segments ≠ []) :
    addSegments path (parts ++ segments) = addSegments (parts.foldl stepInto path) segments := by
  induction parts generalizing path with
  | nil => rfl
  | cons s parts ih =>
    have hrest : (parts ++ segments).isEmpty = false := by simp [hne]
    rw [List.cons_append, addSegments, hrest, ih, List.foldl_cons]
    rfl

/-- The last segment leaves an empty one behind if it is one of dots. -/
theorem addSegments_concat (path init : List (List Char)) (s : List Char) :
    addSegments path (init ++ [s]) =
      (init ++ [s]).foldl stepInto path ++ if isDot s || isDoubleDot s then [[]] else [] := by
  rw [addSegments_append path init (List.cons_ne_nil s []), List.foldl_append]
  simp only [addSegments, stepInto, List.foldl_cons, List.foldl_nil, List.isEmpty_nil, if_true]
  cases isDoubleDot s with
  | true => simp
  | false => cases isDot s <;> simp

end Steps

/-! ## Slashes at the end -/

section Slashes

/-- The text ends in a slash. -/
def EndsInSlash (text : List Char) : Prop := text.getLast? = some '/'

theorem endsInSlash_part {front s : List Char} (h : '/' ∉ s) :
    EndsInSlash (front ++ '/' :: s) ↔ s = [] := by
  obtain rfl | ⟨init, c, rfl⟩ := List.eq_nil_or_concat s
  · simp [EndsInSlash]
  · have hc : c ≠ '/' := fun hc => h (by simp [hc])
    rw [EndsInSlash, List.concat_eq_append, ← List.cons_append, ← List.append_assoc,
      List.getLast?_concat]
    simp [hc]

theorem twoSlashes_suffix_iff {text : List Char} :
    "//".toList <:+ text ++ ['/'] ↔ EndsInSlash text := by
  have htwo : "//".toList = ['/'] ++ ['/'] := rfl
  rw [htwo, List.suffix_append_inj_of_length_eq rfl, List.singleton_suffix_iff_getLast?_eq_some]
  exact and_iff_left rfl

/-- A text that ends in two slashes ends in one. -/
theorem endsInSlash_of_suffix {text : List Char} (h : "//".toList <:+ text) :
    EndsInSlash text := by
  have hone : ['/'] <:+ "//".toList := ⟨['/'], rfl⟩
  exact List.singleton_suffix_iff_getLast?_eq_some.mp (hone.trans h)

/-- No slash is written for a segment. -/
theorem slash_notMem_encode {s : List Char} (h : ∀ c ∈ s, isSlash true c = false) :
    '/' ∉ Percent.encode Percent.inPath s := by
  intro hmem
  obtain ⟨c, hc, hmem⟩ := List.mem_flatMap.mp hmem
  split at hmem
  · rw [List.mem_singleton] at hmem
    subst hmem
    exact absurd (h '/' hc) (by decide)
  · obtain ⟨b, -, hb⟩ := List.mem_flatMap.mp hmem
    have hlt : b.toNat < 256 := b.toNat_lt
    have hdigit (n : Nat) (hn : n < 16) : '/' ≠ Percent.hexDigit n := by
      rintro heq
      have hunreserved := Rest.isUnreserved_hexDigit n hn
      rw [← heq] at hunreserved
      cases hunreserved
    simp only [Percent.encodeByte, List.mem_cons, List.not_mem_nil, or_false] at hb
    rcases hb with hb | hb | hb
    · cases hb
    · exact hdigit _ (by omega) hb
    · exact hdigit _ (by omega) hb

/-- Something is written for a segment that is not empty. -/
theorem encode_eq_nil_iff {s : List Char} : Percent.encode Percent.inPath s = [] ↔ s = [] := by
  have hchar (c : Char) : (if Percent.inPath c then [c] else
      (Text.Utf8.encodeChar c).flatMap Percent.encodeByte) ≠ [] := by
    have hbytes : Text.Utf8.encodeChar c ≠ [] := by
      intro h
      have hencode : Text.Utf8.encode [c] = Text.Utf8.encode [] := by
        rw [Text.Utf8.encode_cons, h]
        rfl
      exact List.cons_ne_nil c [] (Text.Utf8.encode_injective hencode)
    split
    · exact List.cons_ne_nil _ _
    · obtain ⟨b, bytes, hb⟩ := List.exists_cons_of_ne_nil hbytes
      rw [hb, List.flatMap_cons]
      exact List.cons_ne_nil _ _
  cases s with
  | nil => exact iff_of_true rfl rfl
  | cons c s =>
    rw [Percent.encode, List.flatMap_cons, List.append_eq_nil_iff]
    exact iff_of_false (fun h => hchar c h.1) (List.cons_ne_nil c s)

theorem endsInSlash_pathText (path : List (List Char)) {s : List Char}
    (h : ∀ c ∈ s, isSlash true c = false) :
    EndsInSlash (pathText (path ++ [Percent.encode Percent.inPath s])) ↔ s = [] := by
  have hpath : pathText (path ++ [Percent.encode Percent.inPath s]) =
      pathText path ++ '/' :: Percent.encode Percent.inPath s := by simp [pathText]
  rw [hpath, endsInSlash_part (slash_notMem_encode h), encode_eq_nil_iff]

end Slashes

/-! ## Paths -/

section Path

variable {scheme : List Char} {authority : Option Authority}

theorem finish_scheme (text : List Char) : (finish scheme authority [] text).scheme = scheme := by
  simp only [finish]

theorem finish_authority (text : List Char) :
    (finish scheme authority [] text).authority = authority := by
  simp only [finish]

/-- With a query or a fragment, nothing that is written behind an address gets into its path. -/
theorem finish_append_of_ends (scheme : List Char) (authority : Option Authority)
    {text : List Char} (h : ∃ c ∈ text, endsPath c = true) (more : List Char) :
    (finish scheme authority [] (text ++ more)).path = (finish scheme authority [] text).path ∧
      ((finish scheme authority [] text).query ≠ none ∨
        (finish scheme authority [] text).fragment ≠ none) := by
  have hne : text.dropWhile (!endsPath ·) ≠ [] := by
    intro hnil
    obtain ⟨c, hmem, hc⟩ := h
    have hnone := List.dropWhile_eq_nil_iff.mp hnil c hmem
    simp [hc] at hnone
  obtain ⟨c, rest, hdrop⟩ := List.exists_cons_of_ne_nil hne
  have hc : endsPath c = true := by
    have hhead := List.head?_dropWhile_not (!endsPath ·) text
    rw [hdrop] at hhead
    simpa using hhead
  have htake : (text ++ more).takeWhile (!endsPath ·) = text.takeWhile (!endsPath ·) :=
    takeWhile_append_of_exists (by simpa using h) more
  refine ⟨by simp only [finish, htake], ?_⟩
  simp only [finish, hdrop]
  rw [endsPath, Bool.or_eq_true, beq_iff_eq, beq_iff_eq] at hc
  rcases hc with rfl | rfl
  · exact .inl (Option.some_ne_none _)
  · exact .inr (Option.some_ne_none _)

/-- The text is a path that stands behind an authority, and segments that are written behind it go
behind `front`. -/
structure Continues (scheme : List Char) (authority : Option Authority)
    (path front : List Char) : Prop where
  noQuery : (finish scheme authority [] path).query = none
  noFragment : (finish scheme authority [] path).fragment = none
  /-- But for slashes at its end, `front` is the path of the address. -/
  dropEnd_eq : Text.dropEnd (· == '/') (finish scheme authority [] path).path.text =
    Text.dropEnd (· == '/') front
  endsInSlash_iff : EndsInSlash front ↔
    (∃ c, path.getLast? = some c ∧ isSlash true c = true) ∨
      "//".toList <:+ (finish scheme authority [] path).path.text
  append : ∀ segments : List (List Char), segments ≠ [] →
    (∀ s ∈ segments, ∀ c ∈ s, isInert c = true) →
    (∀ s ∈ segments, isDot s = false ∧ isDoubleDot s = false) →
    ∃ parts, finish scheme authority [] (path ++ pathText segments) =
        ⟨scheme, authority, .segments parts, none, none⟩ ∧
      pathText parts = front ++ pathText segments

/-- Without a path, the segments are the path. -/
theorem continues_nil (hspecial : isSpecial scheme = true) : Continues scheme authority [] [] := by
  have hnil : finish scheme authority [] [] =
      ⟨scheme, authority, .segments [[]], none, none⟩ := by
    simp only [finish, hspecial]
    rfl
  refine ⟨by rw [hnil], by rw [hnil], by rw [hnil]; rfl, ?_, fun segments hne hinert hdots => ?_⟩
  · rw [hnil]
    have hend : ¬ EndsInSlash [] := by rintro ⟨⟩
    refine iff_of_false hend (not_or.mpr ⟨by simp, ?_⟩)
    rintro ⟨front, hfront⟩
    have hlength := congrArg List.length hfront
    simp [Path.text] at hlength
  · refine ⟨segments, ?_, rfl⟩
    rw [List.nil_append, finish_pathText hspecial authority hne hinert,
      addSegments_of_forall [] hinert hdots, List.nil_append]

/-- The path of an address goes on with what is written behind it. -/
theorem continues_slash (hspecial : isSpecial scheme = true) {c : Char} {text : List Char}
    (hc : isSlash true c = true) (htext : ∀ d ∈ c :: text, endsPath d = false) :
    Continues scheme authority (c :: text)
      (pathText ((Domain.splitWhere (isSlash true) text).foldl stepInto [])) := by
  obtain ⟨front, d, s, init, hfront, hd, hs, hsplit⟩ := Domain.exists_last_part hc text
  have hfinish := finish_slash hspecial authority hc htext
  rw [hsplit, addSegments_concat] at hfinish
  -- A text ends in a slash if and only if its last segment is empty.
  have hlast : (∃ c', (c :: text).getLast? = some c' ∧ isSlash true c' = true) ↔ s = [] := by
    rw [hfront]
    obtain rfl | ⟨s', e, rfl⟩ := List.eq_nil_or_concat s
    · exact iff_of_true ⟨d, by simp, hd⟩ rfl
    · rw [List.concat_eq_append] at hs ⊢
      refine iff_of_false ?_ (by simp)
      rintro ⟨c', hc', hslash⟩
      rw [← List.cons_append, ← List.append_assoc, List.getLast?_concat] at hc'
      cases hc'
      rw [hs e (by simp)] at hslash
      cases hslash
  have hempty (path : List (List Char)) : pathText (path ++ [[]]) = pathText path ++ ['/'] := by
    simp [pathText]
  refine ⟨by rw [hfinish], by rw [hfinish], ?_, ?_, fun segments hne hinert hdots => ?_⟩
  · rw [hfinish, hsplit]
    show Text.dropEnd _ (pathText (_ ++ _)) = _
    split
    · rw [hempty, Text.dropEnd_concat_of_pos _ _ _ rfl]
    · rw [List.append_nil]
  · rw [hlast, hfinish, hsplit]
    show _ ↔ _ ∨ _ <:+ pathText (_ ++ _)
    cases hdot : isDot s || isDoubleDot s with
    | true =>
      -- The empty segment at the end goes, and what stands before it decides.
      have hne : s ≠ [] := by
        rintro rfl
        cases hdot
      rw [if_pos rfl, hempty, twoSlashes_suffix_iff, or_iff_right hne]
    | false =>
      rw [Bool.or_eq_false_iff] at hdot
      have hstep : (init ++ [s]).foldl stepInto [] =
          init.foldl stepInto [] ++ [Percent.encode Percent.inPath s] := by
        simp [List.foldl_append, stepInto, hdot]
      have hends := endsInSlash_pathText (init.foldl stepInto []) hs
      rw [if_neg Bool.false_ne_true, List.append_nil, hstep]
      exact ⟨fun h => .inl (hends.mp h), fun h => h.elim hends.mpr endsInSlash_of_suffix⟩
  · have hmore : ∀ d ∈ c :: (text ++ pathText segments), endsPath d = false := by
      rw [← List.cons_append]
      exact List.forall_mem_append.mpr ⟨htext, fun d hd => (endsPath_of_mem_pathText hinert d hd).1⟩
    refine ⟨_, finish_slash hspecial authority hc hmore, ?_⟩
    show pathText (addSegments [] (Domain.splitWhere _ (text ++ _))) = _
    rw [splitWhere_pathText text hinert, addSegments_append [] _ hne,
      addSegments_of_forall _ hinert hdots]
    exact List.flatMap_append

end Path

/-! ## Authorities -/

section Authority

/-- A text behind an authority that has no query and no fragment is a path. -/
theorem exists_continues {scheme : List Char} (hspecial : isSpecial scheme = true)
    (authority : Option Authority) {text : List Char} (hends : EndsAuthority text)
    (htext : ∀ c ∈ text, endsPath c = false) :
    ∃ front, Continues scheme authority text front := by
  cases text with
  | nil => exact ⟨[], continues_nil hspecial⟩
  | cons c text =>
    have hc : endsAuthority true c = true := hends c rfl
    rw [endsAuthority, htext c List.mem_cons_self, Bool.or_false] at hc
    exact ⟨_, continues_slash hspecial hc htext⟩

variable {place rest : List Char}

/-- The user is read from what stands before the end of the authority. -/
theorem splitUserinfo_append (hplace : ∀ c ∈ place, endsAuthority true c = false) :
    ∃ userinfo hostPort, (∀ c ∈ hostPort, c ∈ place) ∧
      ∀ rest, EndsAuthority rest →
        splitUserinfo true (place ++ rest) = (userinfo, hostPort ++ rest) := by
  cases hat : place.contains '@' with
  | true =>
    let hostPort := (place.reverse.takeWhile (· ≠ '@')).reverse
    refine ⟨some (place.take (place.length - hostPort.length - 1)), hostPort, fun c hc => ?_,
      fun rest hrest => ?_⟩
    · exact List.mem_reverse.mp (List.takeWhile_subset _ (List.mem_reverse.mp hc))
    · obtain ⟨htake, hdrop⟩ := span_place hplace hrest
      simp only [splitUserinfo, htake, hdrop, hat, if_true, hostPort]
  | false =>
    refine ⟨none, place, fun _ hc => hc, fun rest hrest => ?_⟩
    obtain ⟨htake, hdrop⟩ := span_place hplace hrest
    simp only [splitUserinfo, htake, hat, Bool.false_eq_true, if_false]

/-- The host is read from what stands before the end of the authority. It ends there or at the colon
of a port. -/
theorem splitHost_append (hplace : ∀ c ∈ place, endsAuthority true c = false) (inside : Bool) :
    ∃ host port, (∀ c ∈ port, c ∈ place) ∧ (∀ c ∈ port.head?, c = ':') ∧
      ∀ rest, EndsAuthority rest →
        splitHost true inside (place ++ rest) = (host, port ++ rest) := by
  induction place generalizing inside with
  | nil =>
    refine ⟨[], [], List.forall_mem_nil _, nofun, fun rest hrest => ?_⟩
    cases rest with
    | nil => rfl
    | cons c rest =>
      have hc : endsAuthority true c = true := hrest c rfl
      rw [List.nil_append, splitHost, hc, Bool.true_or, if_pos rfl]
  | cons c place ih =>
    rw [List.forall_mem_cons] at hplace
    cases hcolon : c == ':' && !inside with
    | true =>
      refine ⟨[], c :: place, fun _ hc => hc, fun d hd => ?_, fun rest hrest => ?_⟩
      · cases hd
        exact beq_iff_eq.mp (Bool.and_eq_true _ _ ▸ hcolon).1
      · rw [List.cons_append, splitHost, hcolon, Bool.or_true, if_pos rfl]
    | false =>
      obtain ⟨host, port, hsub, hhead, h⟩ := ih hplace.2 (if c == '[' then true else
        if c == ']' then false else inside)
      refine ⟨c :: host, port, fun d hd => List.mem_cons_of_mem c (hsub d hd), hhead,
        fun rest hrest => ?_⟩
      rw [List.cons_append, splitHost, hplace.1, hcolon, Bool.or_false, if_neg Bool.false_ne_true]
      simp only [h rest hrest]

/-- What ends the authority is no digit. -/
theorem span_digits (digits : List Char) (hrest : EndsAuthority rest) :
    (digits ++ rest).takeWhile Char.isDigit = digits.takeWhile Char.isDigit ∧
      (digits ++ rest).dropWhile Char.isDigit = digits.dropWhile Char.isDigit ++ rest := by
  have hnone : rest.takeWhile Char.isDigit = [] ∧ rest.dropWhile Char.isDigit = rest := by
    cases rest with
    | nil => exact ⟨rfl, rfl⟩
    | cons c rest =>
      have hc : endsAuthority true c = true := hrest c rfl
      have hdigit : ¬ c.isDigit = true := by
        simp only [endsAuthority, isSlash, endsPath, Bool.true_and, Bool.or_eq_true,
          beq_iff_eq] at hc
        rcases hc with (rfl | rfl) | rfl | rfl <;> decide
      exact ⟨List.takeWhile_cons_of_neg hdigit, List.dropWhile_cons_of_neg hdigit⟩
  rw [List.takeWhile_append, List.dropWhile_append, hnone.1, hnone.2]
  constructor
  · split
    next hlength => rw [List.append_nil, (List.takeWhile_prefix _).eq_of_length hlength]
    next => rfl
  · split
    next hempty => rw [List.isEmpty_iff.mp hempty, List.nil_append]
    next => rfl

/-- The port is read from what stands before the end of the authority. -/
theorem port_append (hplace : ∀ c ∈ place, endsAuthority true c = false)
    (hcolon : ∀ c ∈ place.head?, c = ':') :
    (∃ p, ∀ rest, EndsAuthority rest → port (place ++ rest) = .ok (p, rest)) ∨
      ∃ f, ∀ rest, EndsAuthority rest → port (place ++ rest) = .error f := by
  cases place with
  | nil =>
    refine .inl ⟨none, fun rest hrest => ?_⟩
    cases rest with
    | nil => rfl
    | cons c rest =>
      have hc : endsAuthority true c = true := hrest c rfl
      have hne : c ≠ ':' := by
        rintro rfl
        cases hc
      simp [port, hne]
  | cons c digits =>
    obtain rfl : c = ':' := hcolon c rfl
    rw [List.forall_mem_cons] at hplace
    cases hp : portOf (digits.takeWhile Char.isDigit) with
    | error f =>
      refine .inr ⟨f, fun rest hrest => ?_⟩
      simp only [List.cons_append, port, (span_digits digits hrest).1, hp]
      rfl
    | ok p =>
      cases hd : digits.dropWhile Char.isDigit with
      | nil =>
        refine .inl ⟨p, fun rest hrest => ?_⟩
        simp only [List.cons_append, port, span_digits digits hrest, hp, hd, List.nil_append]
        cases rest with
        | nil => rfl
        | cons c rest =>
          show (if endsAuthority true c then _ else _) = _
          rw [if_pos (hrest c rfl)]
          rfl
      | cons d tail =>
        refine .inr ⟨.invalidPort, fun rest hrest => ?_⟩
        have hmem : d ∈ digits.dropWhile Char.isDigit := hd ▸ List.mem_cons_self
        have hends := hplace.2 d (List.dropWhile_subset _ hmem)
        simp only [List.cons_append, port, span_digits digits hrest, hp, hd]
        show (if endsAuthority true d then _ else _) = _
        rw [hends, if_neg Bool.false_ne_true]
        rfl

/-- **An authority is read from what stands before its end**, and what follows is the rest of the
address. -/
theorem fromAuthority_append {scheme : List Char} (hspecial : isSpecial scheme = true)
    (hplace : ∀ c ∈ place, endsAuthority true c = false) :
    (∃ f, ∀ rest, EndsAuthority rest → fromAuthority scheme (place ++ rest) = .error f) ∨
      ∃ authority, ∀ rest, EndsAuthority rest →
        fromAuthority scheme (place ++ rest) = .ok (finish scheme (some authority) [] rest) := by
  obtain ⟨userinfo, hostPort, hsub, huser⟩ := splitUserinfo_append hplace
  have hhostPort : ∀ c ∈ hostPort, endsAuthority true c = false := fun c hc => hplace c (hsub c hc)
  obtain ⟨host, digits, hsub', hcolon, hhost⟩ := splitHost_append hhostPort false
  have hdigits : ∀ c ∈ digits, endsAuthority true c = false := fun c hc => hhostPort c (hsub' c hc)
  cases host with
  | nil =>
    refine .inl ⟨.emptyHost, fun rest hrest => ?_⟩
    simp only [fromAuthority, hspecial, huser rest hrest, hhost rest hrest]
    split <;> rfl
  | cons c host =>
    have hhead (rest : List Char) :
        (hostPort ++ rest).head?.any (endsAuthority true) = false := by
      cases hostPort with
      | nil => cases hhost [] (by rintro _ ⟨⟩)
      | cons d hostPort => exact hhostPort d List.mem_cons_self
    cases hparse : Host.parse (c :: host) with
    | error f =>
      refine .inl ⟨f, fun rest hrest => ?_⟩
      simp only [fromAuthority, hspecial, huser rest hrest, hhost rest hrest, hhead, hparse,
        Bool.and_false]
      rfl
    | ok parsed =>
      rcases port_append hdigits hcolon with ⟨p, hport⟩ | ⟨f, hport⟩
      · let user := (userinfo.getD []).takeWhile (· ≠ ':')
        let password := ((userinfo.getD []).dropWhile (· ≠ ':')).drop 1
        refine .inr ⟨
          { user := Percent.encode Percent.inUserinfo user
            password := Percent.encode Percent.inUserinfo password
            host := some parsed
            port := if p = knownPort? scheme then none else p }, fun rest hrest => ?_⟩
        simp only [fromAuthority, hspecial, huser rest hrest, hhost rest hrest, hhead, hparse,
          hport rest hrest, Bool.and_false]
        rfl
      · refine .inl ⟨f, fun rest hrest => ?_⟩
        simp only [fromAuthority, hspecial, huser rest hrest, hhost rest hrest, hhead, hparse,
          hport rest hrest, Bool.and_false]
        rfl

end Authority

/-! ## Schemes -/

section Scheme

variable {scheme text rest : List Char} {u : Url}

theorem scheme_fromAuthority (h : fromAuthority scheme text = .ok u) : u.scheme = scheme := by
  unfold fromAuthority at h
  simp only [bind, Except.bind, pure, Except.pure, throw, throwThe, MonadExceptOf.throw] at h
  repeat' split at h
  all_goals first | cases h; done | (cases h; rfl)

theorem scheme_fromFile (h : fromFile text = .ok u) : u.scheme = fileScheme := by
  unfold fromFile at h
  simp only [bind, Except.bind, pure, Except.pure] at h
  repeat' split at h
  all_goals first | cases h; done | (cases h; rfl)

theorem scheme_fromUnknown (h : fromUnknown scheme text = .ok u) : u.scheme = scheme := by
  unfold fromUnknown at h
  split at h
  · exact scheme_fromAuthority h
  · cases h
    rfl
  · cases h
    rfl

theorem scheme_fromScheme (h : fromScheme scheme text = .ok u) : u.scheme = scheme := by
  unfold fromScheme at h
  split at h
  next hfile => rw [scheme_fromFile h, hfile]
  next =>
    split at h
    · exact scheme_fromAuthority h
    · exact scheme_fromUnknown h

/-- An address with a known scheme that is no file begins with an authority. -/
theorem fromScheme_of_isSpecial (hspecial : isSpecial scheme = true) (hfile : scheme ≠ fileScheme) :
    fromScheme scheme text = fromAuthority scheme (text.dropWhile (isSlash true)) := by
  rw [fromScheme, if_neg hfile, if_pos hspecial, fromSlashes]

/-- The scheme stands before the first colon. -/
theorem scheme?_eq_some_iff :
    scheme? text = some (scheme, rest) ↔
      ∃ c name, text = c :: name ++ ':' :: rest ∧ (∀ d ∈ c :: name, isSchemeChar d = true) ∧
        c.isAlpha = true ∧ scheme = (c :: name).map Char.toLower := by
  constructor
  · intro h
    simp only [scheme?] at h
    split at h
    next c name rest' htake hdrop =>
      split at h
      next halpha =>
        cases h
        refine ⟨c, name, ?_, fun d hd => ?_, halpha, by rw [htake]⟩
        · rw [← htake, ← hdrop, List.takeWhile_append_dropWhile]
        · rw [← htake] at hd
          exact List.mem_takeWhile_imp hd
      next => cases h
    next => cases h
  · rintro ⟨c, name, rfl, hname, halpha, rfl⟩
    have htake : (c :: name ++ ':' :: rest).takeWhile isSchemeChar = c :: name := by
      rw [List.takeWhile_append_of_pos hname, List.takeWhile_cons_of_neg (by decide),
        List.append_nil]
    have hdrop : (c :: name ++ ':' :: rest).dropWhile isSchemeChar = ':' :: rest := by
      rw [List.dropWhile_append_of_pos hname, List.dropWhile_cons_of_neg (by decide)]
    simp only [scheme?, htake, hdrop, halpha, if_true]

end Scheme

/-! ## Whole addresses -/

section Whole

variable {text : List Char} {u : Url} {c : Char}

theorem isBreak_of_not_isEdge (h : isEdge c = false) : isBreak c = false := by
  rw [Bool.eq_false_iff]
  intro hbreak
  simp only [isBreak, Bool.or_eq_true, beq_iff_eq] at hbreak
  rcases hbreak with (rfl | rfl) | rfl <;> cases h

/-- What stands behind a text counts as it is, unless it has blanks or controls. -/
theorem clean_append (text : List Char) {more : List Char} (hne : more ≠ [])
    (hmore : ∀ d ∈ more, isEdge d = false) :
    clean (text ++ more) = (text.dropWhile isEdge).filter (!isBreak ·) ++ more := by
  obtain hnil | ⟨init, d, rfl⟩ := List.eq_nil_or_concat more
  · exact absurd hnil hne
  rw [List.concat_eq_append] at hmore ⊢
  have hd : ¬ isEdge d = true := by simp [hmore d (by simp)]
  have hkeep : (init ++ [d]).filter (!isBreak ·) = init ++ [d] :=
    List.filter_eq_self.mpr fun e he => by simp [isBreak_of_not_isEdge (hmore e he)]
  have hdrop : (text ++ (init ++ [d])).dropWhile isEdge =
      text.dropWhile isEdge ++ (init ++ [d]) := by
    rw [List.dropWhile_append]
    split
    next hempty =>
      obtain ⟨e, rest, he⟩ := List.exists_cons_of_ne_nil (show init ++ [d] ≠ [] by simp)
      rw [he, List.forall_mem_cons] at hmore
      rw [List.isEmpty_iff.mp hempty, he, List.dropWhile_cons_of_neg (by simp [hmore.1]),
        List.nil_append]
    next => rfl
  rw [clean, hdrop, ← List.append_assoc, Text.dropEnd_concat_of_neg _ _ _ hd, List.append_assoc,
    List.filter_append, hkeep]

/-- If the text itself ends in a character that counts, nothing of it changes. -/
theorem clean_append_of_last (hlast : text.getLast? = some c) (hc : isEdge c = false) :
    (clean text).getLast? = some c ∧ ∀ more : List Char, (∀ d ∈ more, isEdge d = false) →
      clean (text ++ more) = clean text ++ more := by
  obtain ⟨init, rfl⟩ := List.getLast?_eq_some_iff.mp hlast
  have hone : ∀ d ∈ [c], isEdge d = false := List.forall_mem_singleton.mpr hc
  have hclean := clean_append init (List.cons_ne_nil c []) hone
  refine ⟨by rw [hclean, List.getLast?_concat], fun more hmore => ?_⟩
  have hall : ∀ d ∈ [c] ++ more, isEdge d = false := List.forall_mem_append.mpr ⟨hone, hmore⟩
  rw [List.append_assoc, clean_append init (by simp) hall, hclean, List.append_assoc]

/-- What is left of a text behind its authority. -/
theorem endsAuthority_dropWhile (text : List Char) :
    EndsAuthority (text.dropWhile (!endsAuthority true ·)) := by
  intro c hc
  have hhead := List.head?_dropWhile_not (!endsAuthority true ·) text
  rw [show (text.dropWhile (!endsAuthority true ·)).head? = some c from hc] at hhead
  simpa using hhead

theorem endsAuthority_append {path more : List Char} (hpath : EndsAuthority path)
    (hmore : EndsAuthority more) : EndsAuthority (path ++ more) := by
  intro c hc
  cases path with
  | nil => exact hmore c hc
  | cons d path => exact hpath c hc

/-- What is read of a text that begins with an authority: the path begins where that ends. -/
theorem fromAuthority_span {scheme : List Char} (hspecial : isSpecial scheme = true)
    (hu : fromAuthority scheme text = .ok u) :
    ∃ path, u = finish scheme u.authority [] path ∧ EndsAuthority path ∧ path <:+ text ∧
      (path = [] → ∀ c ∈ text, endsAuthority true c = false) ∧
      ∀ more, EndsAuthority more →
        fromAuthority scheme (text ++ more) =
          .ok (finish scheme u.authority [] (path ++ more)) := by
  let place := text.takeWhile (!endsAuthority true ·)
  let path := text.dropWhile (!endsAuthority true ·)
  have htext : place ++ path = text := List.takeWhile_append_dropWhile
  have hplace : ∀ c ∈ place, endsAuthority true c = false := fun c hc => by
    simpa using List.mem_takeWhile_imp hc
  have hpath : EndsAuthority path := endsAuthority_dropWhile text
  rcases fromAuthority_append hspecial hplace with ⟨f, hf⟩ | ⟨authority, hok⟩
  · have hfail := hf path hpath
    rw [htext, hu] at hfail
    cases hfail
  · have hfinish := hok path hpath
    rw [htext, hu] at hfinish
    cases hfinish
    refine ⟨path, rfl, hpath, List.dropWhile_suffix _, fun hnil => ?_, fun more hmore => ?_⟩
    · rw [hnil, List.append_nil] at htext
      rw [← htext]
      exact hplace
    · have hends : EndsAuthority (path ++ more) := endsAuthority_append hpath hmore
      have hmore := hok (path ++ more) hends
      rw [← List.append_assoc, htext] at hmore
      exact hmore

theorem fromAuthority_nil {scheme : List Char} (hspecial : isSpecial scheme = true) :
    fromAuthority scheme [] = .error .emptyHost := by
  simp only [fromAuthority, hspecial]
  rfl

/-- **An address with something behind it.** It is read as before up to the end of its authority,
and what is written behind it goes behind the rest. -/
theorem parse_append (hlast : text.getLast? = some c) (hc : isEdge c = false)
    (hu : parse text = .ok u) (hspecial : isSpecial u.scheme = true)
    (hfile : u.scheme ≠ fileScheme) :
    ∃ path, u = finish u.scheme u.authority [] path ∧ EndsAuthority path ∧
      (path = [] ∧ endsAuthority true c = false ∨ path.getLast? = some c) ∧
      ∀ more, EndsAuthority more → (∀ d ∈ more, isEdge d = false) →
        parse (text ++ more) = .ok (finish u.scheme u.authority [] (path ++ more)) := by
  obtain ⟨hcleanLast, hclean⟩ := clean_append_of_last hlast hc
  unfold parse at hu
  cases hscheme : scheme? (clean text) with
  | none =>
    rw [hscheme] at hu
    cases hu
  | some parts =>
    obtain ⟨scheme, rest⟩ := parts
    rw [hscheme] at hu
    simp only [] at hu
    obtain rfl := scheme_fromScheme hu
    rw [fromScheme_of_isSpecial hspecial hfile] at hu
    obtain ⟨path, hfinish, hends, hsuffix, hnil, hmore⟩ := fromAuthority_span hspecial hu
    have hne : rest.dropWhile (isSlash true) ≠ [] := by
      intro hempty
      rw [hempty, fromAuthority_nil hspecial] at hu
      cases hu
    obtain ⟨a, name, hparts, hname, halpha, hlower⟩ := scheme?_eq_some_iff.mp hscheme
    have hsplit : clean text = (a :: name ++ ':' :: rest.takeWhile (isSlash true)) ++
        rest.dropWhile (isSlash true) := by
      rw [hparts]
      simp
    rw [hsplit, List.getLast?_append_of_ne_nil _ hne] at hcleanLast
    refine ⟨path, hfinish, hends, ?_, fun more hmore' hedge => ?_⟩
    · by_cases hempty : path = []
      · exact .inl ⟨hempty, hnil hempty c (List.mem_of_getLast? hcleanLast)⟩
      · obtain ⟨front, hfront⟩ := hsuffix
        rw [← hfront, List.getLast?_append_of_ne_nil _ hempty] at hcleanLast
        exact .inr hcleanLast
    · have hscheme' : scheme? (clean (text ++ more)) = some (u.scheme, rest ++ more) := by
        rw [hclean more hedge, hparts]
        exact scheme?_eq_some_iff.mpr ⟨a, name, by simp, hname, halpha, hlower⟩
      unfold parse
      rw [hscheme']
      simp only []
      rw [fromScheme_of_isSpecial hspecial hfile, List.dropWhile_append,
        if_neg (by simpa using hne), hmore more hmore']

/-- What follows an authority makes no difference to it. -/
theorem fromAuthority_of_append {scheme more : List Char} {v : Url}
    (hspecial : isSpecial scheme = true) (hmore : EndsAuthority more)
    (hv : fromAuthority scheme (text ++ more) = .ok v) :
    ∃ u, fromAuthority scheme text = .ok u ∧ u.authority = v.authority := by
  let place := text.takeWhile (!endsAuthority true ·)
  let path := text.dropWhile (!endsAuthority true ·)
  have htext : place ++ path = text := List.takeWhile_append_dropWhile
  have hplace : ∀ c ∈ place, endsAuthority true c = false := fun c hc => by
    simpa using List.mem_takeWhile_imp hc
  have hpath : EndsAuthority path := endsAuthority_dropWhile text
  have hends : EndsAuthority (path ++ more) := endsAuthority_append hpath hmore
  rcases fromAuthority_append hspecial hplace with ⟨f, hf⟩ | ⟨authority, hok⟩
  · have hfail := hf (path ++ more) hends
    rw [← List.append_assoc, htext, hv] at hfail
    cases hfail
  · have hwhole := hok (path ++ more) hends
    have hfront := hok path hpath
    rw [← List.append_assoc, htext, hv] at hwhole
    rw [htext] at hfront
    refine ⟨_, hfront, ?_⟩
    cases hwhole
    rw [finish_authority, finish_authority]

/-- **An address with a path behind it is one without it**, and names the same user, host and port,
if the path does not come into its scheme or its host. -/
theorem parse_of_append {more : List Char} {v : Url} (hlast : text.getLast? = some c)
    (hc : isInertInHost c = true) (hmore : ∀ d ∈ '/' :: more, isEdge d = false)
    (hv : parse (text ++ '/' :: more) = .ok v) (hspecial : isSpecial v.scheme = true)
    (hfile : v.scheme ≠ fileScheme) :
    ∃ u, parse text = .ok u ∧ u.authority = v.authority := by
  obtain ⟨⟨hends, hedge, -⟩, hmarks, -⟩ := isInertInHost_iff.mp hc
  obtain ⟨hcleanLast, hclean⟩ := clean_append_of_last hlast hedge
  unfold parse at hv
  rw [hclean _ hmore] at hv
  cases hscheme : scheme? (clean text ++ '/' :: more) with
  | none =>
    rw [hscheme] at hv
    cases hv
  | some parts =>
    obtain ⟨scheme, behind⟩ := parts
    rw [hscheme] at hv
    simp only [] at hv
    obtain rfl := scheme_fromScheme hv
    rw [fromScheme_of_isSpecial hspecial hfile] at hv
    obtain ⟨a, name, hparts, hname, halpha, hlower⟩ := scheme?_eq_some_iff.mp hscheme
    -- The colon of the scheme stands before the slash that was written behind the text.
    obtain ⟨rest, hrest, rfl⟩ : ∃ rest, clean text = a :: name ++ ':' :: rest ∧
        behind = rest ++ '/' :: more := by
      rcases List.append_eq_append_iff.mp hparts with ⟨past, hname', hmore'⟩ | ⟨left, hleft, hbehind⟩
      · cases past with
        | nil => cases hmore'
        | cons d past =>
          cases hmore'
          exact absurd (hname '/' (by simp [hname'])) (by decide)
      · cases left with
        | nil => cases hbehind
        | cons d rest =>
          cases hbehind
          exact ⟨rest, hleft, rfl⟩
    have hne : rest ≠ [] := by
      rintro rfl
      rw [hrest, List.getLast?_concat] at hcleanLast
      cases hcleanLast
      exact hmarks (by decide)
    have hrestLast : rest.getLast? = some c := by
      rw [hrest, List.append_cons, List.getLast?_append_of_ne_nil _ hne] at hcleanLast
      exact hcleanLast
    have hplace : rest.dropWhile (isSlash true) ≠ [] := by
      intro hnil
      have hslash := List.dropWhile_eq_nil_iff.mp hnil c (List.mem_of_getLast? hrestLast)
      rw [endsAuthority, hslash] at hends
      cases hends
    have hslash : EndsAuthority ('/' :: more) := by
      rintro _ ⟨⟩
      rfl
    rw [List.dropWhile_append, if_neg (by simpa using hplace)] at hv
    obtain ⟨u, hu, hauthority⟩ := fromAuthority_of_append hspecial hslash hv
    refine ⟨u, ?_, hauthority⟩
    unfold parse
    rw [scheme?_eq_some_iff.mpr ⟨a, name, hrest, hname, halpha, hlower⟩]
    simp only []
    rw [fromScheme_of_isSpecial hspecial hfile, hu]

end Whole

end Url

end OpenPulls
