import Mathlib.Data.List.Basic
import OpenPulls.Proofs.Rest.Trimming
import OpenPulls.Proofs.Url.Plain
import OpenPulls.Settings

/-!
# The addresses of pages

What a client asks for, when the address of its server is the scheme `http` and a plain host.

* `root_of_folder`: the root of the interface of a server below a folder (`root_of_plainHost`:
  without one).
* `url_eq`: the address of a page. Its path consists of the segments of the root and those of the
  resource (`segments`), and its query asks for pages of the usual length and says where the page
  starts (`queryText`). It comes of `url_eq_steps`, where the steps in the path are still to be
  taken.

For this no identifier in the path may be one or two dots (`Resource.HasNoDots`), because such
segments are steps in a path.
-/

namespace OpenPulls

open Url (httpScheme pathText)

/-- No identifier of the resource is one dot or two. -/
def Resource.HasNoDots : Resource → Prop
  | .pullRequests r | .commits r _ => r.project ∉ [".", ".."] ∧ r.slug ∉ [".", ".."]
  | .buildStatuses commit => commit ∉ [".", ".."]

/-- The identifiers in the path of the resource. -/
def Resource.identifiers : Resource → List String
  | .pullRequests r | .commits r _ => [r.project, r.slug]
  | .buildStatuses commit => [commit]

theorem Resource.hasNoDots_iff {r : Resource} :
    r.HasNoDots ↔ ∀ identifier ∈ r.identifiers, identifier ∉ [".", ".."] := by
  cases r <;> simp [HasNoDots, identifiers]

namespace Rest

/-! ## Segments -/

/-- The segments of the path of a repository. -/
def repositorySegments (r : Repository) : List (List Char) :=
  ["api".toList, "1.0".toList, "projects".toList, segment r.project, "repos".toList, segment r.slug]

/-- The segments of the path of a resource. -/
def segments : Resource → List (List Char)
  | .pullRequests r => repositorySegments r ++ ["pull-requests".toList]
  | .buildStatuses commit =>
    ["build-status".toList, "1.0".toList, "commits".toList, segment commit]
  | .commits r number =>
    repositorySegments r ++ ["pull-requests".toList, decimal number.toNat, "commits".toList]

theorem pathText_append (first second : List (List Char)) :
    pathText first ++ pathText second = pathText (first ++ second) := List.flatMap_append.symm

/-- A segment behind the slash that it begins with. -/
theorem pathText_concat (first : List (List Char)) (s : List Char) :
    pathText first ++ ['/'] ++ s = pathText (first ++ [s]) := by
  simp [pathText]

theorem repositoryPath_eq (r : Repository) :
    repositoryPath r = pathText (repositorySegments r) := by
  have hprojects : "/api/1.0/projects/".toList =
      pathText ["api".toList, "1.0".toList, "projects".toList] ++ ['/'] := by decide
  have hrepos : "/repos/".toList = pathText ["repos".toList] ++ ['/'] := by decide
  unfold repositoryPath repositorySegments
  simp only [hprojects, hrepos, pathText_concat, ← List.append_assoc, pathText_append]
  rfl

/-- The path of a resource is written with its segments. -/
theorem path_eq (r : Resource) : path r = pathText (segments r) := by
  have hpulls : "/pull-requests".toList = pathText ["pull-requests".toList] := by decide
  have hslash : "/pull-requests/".toList = pathText ["pull-requests".toList] ++ ['/'] := by decide
  have hcommits : "/commits".toList = pathText ["commits".toList] := by decide
  have hbuilds : "/build-status/1.0/commits/".toList =
      pathText ["build-status".toList, "1.0".toList, "commits".toList] ++ ['/'] := by decide
  unfold path segments
  cases r with
  | pullRequests r => simp only [repositoryPath_eq, hpulls, pathText_append]
  | buildStatuses commit =>
    simp only [hbuilds, pathText_concat]
    rfl
  | commits r number =>
    simp only [repositoryPath_eq, hslash, hcommits, ← List.append_assoc, pathText_append,
      pathText_concat]
    simp only [List.append_assoc, List.cons_append, List.nil_append]

/-- The segment is part of a path as it stands. -/
def IsSafe (s : List Char) : Prop :=
  (∀ c ∈ s, isInert c = true) ∧ Url.isDot s = false ∧ Url.isDoubleDot s = false

instance (s : List Char) : Decidable (IsSafe s) :=
  decidable_of_iff (s.all isInert = true ∧ Url.isDot s = false ∧ Url.isDoubleDot s = false)
    (and_congr_left' List.all_eq_true)

theorem isSafe_segment {identifier : String} (h : identifier ∉ [".", ".."]) :
    IsSafe (segment identifier) := by
  simp only [List.mem_cons, List.not_mem_nil, or_false, not_or] at h
  exact ⟨fun c hc => isInert_of_isSegmentChar (isSegmentChar_of_mem c hc), isDot_segment h.1,
    isDoubleDot_segment h.2⟩

theorem isDigit_of_mem_decimal {n : Nat} {c : Char} (h : c ∈ decimal n) : c.isDigit = true :=
  Nat.isDigit_of_mem_toDigits (by decide) (by decide) h

theorem isSafe_decimal (n : Nat) : IsSafe (decimal n) := by
  have hsegment : segment (String.ofList (decimal n)) = decimal n := by
    rw [segment, String.toList_ofList, Percent.encode_of_forall]
    intro c hc
    rw [Percent.isUnreserved, Char.isAlphanum, isDigit_of_mem_decimal hc, Bool.or_true,
      Bool.true_or]
  rw [← hsegment]
  apply isSafe_segment
  -- A number is written without dots.
  have hdot : '.' ∉ decimal n := fun h => by cases isDigit_of_mem_decimal h
  simp only [List.mem_cons, List.not_mem_nil, or_false, ← String.toList_inj, String.toList_ofList]
  rintro (h | h) <;> exact hdot (by rw [h]; decide)

/-- The segments of a path that are not safe anyway are those of the identifiers. -/
theorem forall_mem_segments_iff {P : List Char → Prop} (hsafe : ∀ s, IsSafe s → P s)
    (r : Resource) :
    (∀ s ∈ segments r, P s) ↔ ∀ identifier ∈ r.identifiers, P (segment identifier) := by
  have hfixed : ∀ s ∈ ["api".toList, "1.0".toList, "projects".toList, "repos".toList,
      "pull-requests".toList, "commits".toList, "build-status".toList], P s := by
    have hall : ∀ s ∈ ["api".toList, "1.0".toList, "projects".toList, "repos".toList,
        "pull-requests".toList, "commits".toList, "build-status".toList], IsSafe s := by decide
    exact fun s hs => hsafe s (hall s hs)
  simp only [List.forall_mem_cons] at hfixed
  have hdecimal (n : Nat) : P (decimal n) := hsafe _ (isSafe_decimal n)
  cases r <;>
    simp only [segments, repositorySegments, Resource.identifiers, List.cons_append,
      List.nil_append, List.forall_mem_cons, hfixed, hdecimal, true_and, List.not_mem_nil,
      false_imp_iff, implies_true, and_true]

theorem isSafe_of_mem_segments {r : Resource} (h : r.HasNoDots) : ∀ s ∈ segments r, IsSafe s :=
  (forall_mem_segments_iff (fun _ => id) r).mpr fun identifier hmem =>
    isSafe_segment (Resource.hasNoDots_iff.mp h identifier hmem)

/-! ## The root -/

/-- The segments of the root of the interface. The address of a server with the name of the
interface ends like the root already. -/
def rootSegments (host : List Char) : List (List Char) :=
  if host = "rest".toList then [] else ["rest".toList]

theorem isPlain_not_edge {c : Char} (h : Domain.isPlain c = true) :
    Text.isBlank c = false ∧ (c == '/') = false :=
  forall_ascii (P := fun c => Domain.isPlain c = true → Text.isBlank c = false ∧ (c == '/') = false)
    (by decide +kernel) (Url.toNat_lt_of_isPlain h).1 h

/-- The segments of the root of the interface of a server below a folder. -/
def baseSegments (host : List Char) (folder : List (List Char)) : List (List Char) :=
  if (host :: folder).getLast (List.cons_ne_nil host folder) = "rest".toList then folder
  else folder ++ ["rest".toList]

theorem not_edge_of_isInert {c : Char} (h : isInert c = true) :
    Text.isBlank c = false ∧ (c == '/') = false := by
  have hvisible : Percent.isVisible c = true := by
    have hpath := (Url.isInert_iff.mp h).1
    rw [Percent.inPath, Percent.inQuery, Bool.and_assoc, Bool.and_eq_true] at hpath
    exact hpath.1
  have hascii : c.toNat < 0x80 := by
    rw [Percent.isVisible, Bool.and_eq_true, decide_eq_true_eq, decide_eq_true_eq] at hvisible
    omega
  exact forall_ascii (P := fun c => isInert c = true → Text.isBlank c = false ∧ (c == '/') = false)
    (by decide +kernel) hascii h

/-- The address ends in the name of the interface if its last part is that name. -/
theorem isSuffixOf_iff {front s : List Char} (h : ∀ c ∈ s, (c == '/') = false) :
    rootPath.isSuffixOf (front ++ '/' :: s) = true ↔ s = "rest".toList := by
  rw [List.isSuffixOf_iff_suffix]
  constructor
  · rintro ⟨front', hfront⟩
    -- What stands behind the last slash is the part on one side and the name on the other.
    have hname : (front' ++ rootPath).reverse.takeWhile (· ≠ '/') = "rest".toList.reverse := by
      rw [List.reverse_append]
      rfl
    have hpart : ∀ c ∈ s.reverse, decide (c ≠ '/') = true := by
      intro c hc
      simpa using h c (List.mem_reverse.mp hc)
    rw [hfront, List.reverse_append, List.reverse_cons, List.append_assoc,
      List.takeWhile_append_of_pos hpart] at hname
    simpa using hname
  · rintro rfl
    exact ⟨front, rfl⟩

section Root

variable {host : List Char} {folder : List (List Char)}

/-- What the address of a server with a plain host ends in. -/
theorem exists_last (h : IsPlainHost host)
    (hfolder : ∀ s ∈ folder, s ≠ [] ∧ ∀ c ∈ s, isInert c = true) :
    ∃ front, "http://".toList ++ host ++ pathText folder =
        front ++ '/' :: (host :: folder).getLast (List.cons_ne_nil host folder) ∧
      (host :: folder).getLast (List.cons_ne_nil host folder) ≠ [] ∧
      ∀ c ∈ (host :: folder).getLast (List.cons_ne_nil host folder),
        Text.isBlank c = false ∧ (c == '/') = false := by
  obtain rfl | ⟨init, s, rfl⟩ := List.eq_nil_or_concat folder
  · refine ⟨"http:/".toList, ?_, h.nonempty, fun c hc => isPlain_not_edge
      (Url.isPlain_of_isPlainHost h c hc)⟩
    rw [pathText, List.flatMap_nil, List.append_nil]
    rfl
  · obtain ⟨hne, hinert⟩ := hfolder s (by simp)
    have hlast : (host :: init.concat s).getLast (List.cons_ne_nil _ _) = s := by
      rw [List.getLast_cons (by simp)]
      simp
    rw [hlast, List.concat_eq_append, ← pathText_concat]
    exact ⟨"http://".toList ++ host ++ pathText init, by simp, hne,
      fun c hc => not_edge_of_isInert (hinert c hc)⟩

theorem trimmed_http (h : IsPlainHost host)
    (hfolder : ∀ s ∈ folder, s ≠ [] ∧ ∀ c ∈ s, isInert c = true) :
    trimmed ("http://".toList ++ host ++ pathText folder) =
      "http://".toList ++ host ++ pathText folder := by
  obtain ⟨front, htext, hne, hlast⟩ := exists_last h hfolder
  obtain ⟨c, hc⟩ := Option.ne_none_iff_exists'.mp (mt List.getLast?_eq_none_iff.mp hne)
  obtain ⟨hblank, hslash⟩ := hlast c (List.mem_of_getLast? hc)
  refine Bare.trimmed_eq ⟨⟨'h', rfl, by decide⟩, c, ?_, hblank, by simpa using hslash⟩
  rw [htext, List.getLast?_append_of_ne_nil _ (List.cons_ne_nil _ _), List.getLast?_cons, hc]
  rfl

/-- The root of the interface of a server with a plain host, which is then a host. -/
theorem root_of_folder (h : IsPlainHost host)
    (hfolder : ∀ s ∈ folder, s ≠ [] ∧ ∀ c ∈ s, isInert c = true) {address text : String}
    (haddress : address.toList = "http://".toList ++ host ++ pathText folder)
    (htext : root address = .ok text) :
    text.toList = "http://".toList ++ host ++ pathText (baseSegments host folder) ∧
      ∃ parsed, Host.parse host = .ok parsed := by
  have hparse := Url.parse_http h fun s hs => (hfolder s hs).2
  have hne : ("http://".toList ++ host ++ pathText folder).isEmpty = false := rfl
  have hsuffix : rootPath.isSuffixOf ("http://".toList ++ host ++ pathText folder) = true ↔
      (host :: folder).getLast (List.cons_ne_nil host folder) = "rest".toList := by
    obtain ⟨front, hsplit, -, hlast⟩ := exists_last h hfolder
    rw [hsplit]
    exact isSuffixOf_iff fun c hc => (hlast c hc).2
  unfold root at htext
  simp only [haddress, trimmed_http h hfolder, hne, Bool.false_eq_true, if_false, hparse] at htext
  cases hhost : Host.parse host with
  | error e => simp [hhost, Except.map] at htext
  | ok parsed =>
    simp only [hhost, Except.map] at htext
    refine ⟨?_, parsed, rfl⟩
    unfold baseSegments
    by_cases hrest : (host :: folder).getLast (List.cons_ne_nil host folder) = "rest".toList
    · rw [if_pos (hsuffix.mpr hrest)] at htext
      cases htext
      rw [if_pos hrest, String.toList_ofList]
    · rw [if_neg fun hs => hrest (hsuffix.mp hs)] at htext
      cases htext
      rw [if_neg hrest, String.toList_ofList, ← pathText_append, ← List.append_assoc]
      rfl

/-- The root of the interface of a server with a plain host and no folder. -/
theorem root_of_plainHost (h : IsPlainHost host) {address text : String}
    (haddress : address.toList = "http://".toList ++ host) (htext : root address = .ok text) :
    text.toList = "http://".toList ++ host ++ pathText (rootSegments host) ∧
      ∃ parsed, Host.parse host = .ok parsed :=
  root_of_folder h (List.forall_mem_nil _)
    (by rw [pathText, List.flatMap_nil, List.append_nil, haddress]) htext

end Root

/-! ## Pages -/

/-- What a page request says in its query: the length of pages, and where the page starts, unless it
is the first one. -/
def queryText (r : PageRequest) : List Char :=
  "limit=100".toList ++ (r.start.map fun start => "&start=".toList ++ decimal start.toNat).getD []

/-- What is asked for on a server with the given host: the path of the resource below the root, and
the query. -/
def target (host : List Char) (r : PageRequest) : List Char :=
  pathText (rootSegments host) ++ path r.resource ++ '?' :: queryText r

/-- The address of a page on a server with the given host, which is read as `parsed`. -/
def pageUrl (host : List Char) (parsed : Host) (r : PageRequest) : Url where
  scheme := httpScheme
  authority := some (.ofHost parsed)
  path := .segments (rootSegments host ++ segments r.resource)
  query := some (queryText r)
  fragment := none

theorem target_pageUrl (host : List Char) (parsed : Host) (r : PageRequest) :
    (pageUrl host parsed r).target = target host r := by
  simp only [Url.target, pageUrl, target, Url.Path.text, path_eq, pathText_append, Option.map_some,
    Option.getD_some]

theorem addQuery_pairs {u : Url} (hu : u.query = none) (r : PageRequest) :
    u.addQuery (pairs r) = { u with query := some (queryText r) } := by
  have hlimit : "limit".toList ++ '=' :: decimal pageLimit = "limit=100".toList := by decide
  have hstart : ['&'] ++ "start".toList ++ ['='] = "&start=".toList := by decide
  unfold Url.addQuery pairs queryText
  cases r.start with
  | none =>
    simp only [hu, Option.map_none, Option.toList_none, Option.getD_none, List.map_cons,
      List.map_nil, List.intercalate_singleton, hlimit, List.append_nil]
  | some start =>
    simp only [hu, Option.map_some, Option.toList_some, Option.getD_some, List.map_cons,
      List.map_nil, List.intercalate_cons_cons, List.intercalate_singleton, hlimit, ← hstart,
      List.append_assoc, List.cons_append, List.nil_append]

theorem isSafe_of_mem_baseSegments {host : List Char} {folder : List (List Char)}
    (hfolder : ∀ s ∈ folder, IsSafe s) : ∀ s ∈ baseSegments host folder, IsSafe s := by
  unfold baseSegments
  split
  · exact hfolder
  · exact List.forall_mem_append.mpr ⟨hfolder, by decide⟩

theorem isSafe_of_mem_rootSegments (host : List Char) : ∀ s ∈ rootSegments host, IsSafe s :=
  isSafe_of_mem_baseSegments (List.forall_mem_nil _)

theorem isInert_of_mem_segments (r : Resource) :
    ∀ s ∈ segments r, ∀ c ∈ s, isInert c = true :=
  (forall_mem_segments_iff (fun _ hs => hs.1) r).mpr fun _ _ c hc =>
    isInert_of_isSegmentChar (isSegmentChar_of_mem c hc)

/-- The address of a page, with the steps in its path taken. -/
theorem url_eq_steps {host : List Char} (h : IsPlainHost host) {base : List (List Char)}
    (hbase : ∀ s ∈ base, ∀ c ∈ s, isInert c = true) {parsed : Host}
    (hparsed : Host.parse host = .ok parsed) {c : Client}
    (hroot : c.root.toList = "http://".toList ++ host ++ pathText base) (r : PageRequest) :
    c.url r = .ok
      { scheme := httpScheme
        authority := some (.ofHost parsed)
        path := .segments (Url.addSegments [] (base ++ segments r.resource))
        query := some (queryText r)
        fragment := none } := by
  have hinert : ∀ s ∈ base ++ segments r.resource, ∀ c ∈ s, isInert c = true :=
    List.forall_mem_append.mpr ⟨hbase, isInert_of_mem_segments r.resource⟩
  have hne : base ++ segments r.resource ≠ [] := by
    cases r.resource <;> simp [segments, repositorySegments]
  unfold Client.url
  rw [hroot, path_eq, List.append_assoc, pathText_append, Url.parse_http h hinert, hparsed]
  show Except.ok (Url.addQuery (Url.finish httpScheme _ [] _) _) = _
  rw [Url.finish_pathText rfl _ hne hinert, addQuery_pairs rfl]

/-- **The address of a page** below the root of a server with a plain host. -/
theorem url_eq {host : List Char} (h : IsPlainHost host) {parsed : Host}
    (hparsed : Host.parse host = .ok parsed) {c : Client}
    (hroot : c.root.toList = "http://".toList ++ host ++ pathText (rootSegments host))
    {r : PageRequest} (hr : r.resource.HasNoDots) : c.url r = .ok (pageUrl host parsed r) := by
  have hsafe : ∀ s ∈ rootSegments host ++ segments r.resource, IsSafe s :=
    List.forall_mem_append.mpr ⟨isSafe_of_mem_rootSegments host, isSafe_of_mem_segments hr⟩
  rw [url_eq_steps h (fun s hs => (isSafe_of_mem_rootSegments host s hs).1) hparsed hroot,
    Url.addSegments_of_forall [] (fun s hs => (hsafe s hs).1) fun s hs => (hsafe s hs).2]
  rfl

end Rest

end OpenPulls
