import OpenPulls.Proofs.Rest.Addresses

/-!
# Endpoints

An identifier is written into the path of a request with percent-encoding, so that it stays in a
segment of its own. But one dot and two dots are not changed by it, and the reader of the address
takes them for steps.

* `addSegments_eq_iff`: a path stays as it is written exactly if no segment is one of dots.
* `url_stays_iff`: a request goes to the endpoint that it is meant for exactly if no identifier in
  its path is one dot or two.

A commit named `..` is one that leaves its endpoint (`url_leaves`).
-/

namespace OpenPulls

open Url (httpScheme pathText)

namespace Url

variable {segments : List (List Char)}

/-- No segment of dots is left in a path. -/
theorem noDots_addSegments {path : List (List Char)}
    (hsegments : ∀ s ∈ segments, ∀ c ∈ s, Rest.isInert c = true)
    (hpath : ∀ s ∈ path, isDot s = false ∧ isDoubleDot s = false) :
    ∀ s ∈ addSegments path segments, isDot s = false ∧ isDoubleDot s = false := by
  induction segments generalizing path with
  | nil => exact hpath
  | cons s segments ih =>
    rw [List.forall_mem_cons] at hsegments
    have hs : Percent.encode Percent.inPath s = s :=
      Percent.encode_of_forall fun c hc => (isInert_iff.mp (hsegments.1 c hc)).1
    have hdrop : ∀ s ∈ path.dropLast, isDot s = false ∧ isDoubleDot s = false :=
      fun s hs => hpath s (List.dropLast_subset path hs)
    have hempty : ∀ s ∈ [([] : List Char)], isDot s = false ∧ isDoubleDot s = false := by decide
    rw [addSegments, hs]
    refine ih hsegments.2 ?_
    split
    · split
      · exact List.forall_mem_append.mpr ⟨hdrop, hempty⟩
      · exact hdrop
    · split
      · split
        · exact List.forall_mem_append.mpr ⟨hpath, hempty⟩
        · exact hpath
      · rename_i hdouble hdot
        exact List.forall_mem_append.mpr ⟨hpath, List.forall_mem_singleton.mpr
          ⟨Bool.eq_false_iff.mpr hdot, Bool.eq_false_iff.mpr hdouble⟩⟩

/-- **A path stays as it is written exactly if no segment is one of dots.** -/
theorem addSegments_eq_iff (hsegments : ∀ s ∈ segments, ∀ c ∈ s, Rest.isInert c = true) :
    addSegments [] segments = segments ↔
      ∀ s ∈ segments, isDot s = false ∧ isDoubleDot s = false := by
  constructor
  · intro h
    rw [← h]
    exact noDots_addSegments hsegments (List.forall_mem_nil _)
  · intro h
    rw [addSegments_of_forall [] hsegments h, List.nil_append]

end Url

namespace Rest

/-! ## Identifiers -/

theorem isSafe_segment_iff {identifier : String} :
    IsSafe (segment identifier) ↔ identifier ∉ [".", ".."] := by
  refine ⟨fun h hdots => ?_, isSafe_segment⟩
  simp only [List.mem_cons, List.not_mem_nil, or_false] at hdots
  rcases hdots with rfl | rfl
  · exact absurd h.2.1 (by decide)
  · exact absurd h.2.2 (by decide)

/-- The identifier can be read from its segment. -/
theorem plain?_segment (identifier : String) :
    plain? (segment identifier) = some identifier.toList := by
  rw [plain?, decode_segment, Text.Utf8.decodeText?_encode]

theorem isSafe_segments_iff {r : Resource} : (∀ s ∈ segments r, IsSafe s) ↔ r.HasNoDots := by
  rw [forall_mem_segments_iff (fun _ => id), Resource.hasNoDots_iff]
  exact forall₂_congr fun identifier _ => isSafe_segment_iff

/-! ## Requests -/

section Requests

variable {host : List Char} {folder : List (List Char)}

/-- **A request stays at its endpoint exactly if no identifier in its path is one dot or two.** The
server has a plain host, and its interface may be below a folder. Then the path of what is requested
consists of the segments of the root and those of the resource, and each identifier can be read from
its segment. -/
theorem url_stays_iff (h : IsPlainHost host) (hfolder : ∀ s ∈ folder, s ≠ [] ∧ IsSafe s)
    {address text : String}
    (haddress : address.toList = "http://".toList ++ host ++ pathText folder)
    (hroot : root address = .ok text) (credentials : Option Credentials) (r : PageRequest) :
    text.toList = "http://".toList ++ host ++ pathText (baseSegments host folder) ∧
    (∀ identifier ∈ r.resource.identifiers,
      plain? (segment identifier) = some identifier.toList) ∧
    ∃ parsed u, Host.parse host = .ok parsed ∧ Client.url ⟨text, credentials⟩ r = .ok u ∧
      (request credentials u).url = u ∧ u.scheme = httpScheme ∧
      u.authority = some (.ofHost parsed) ∧ u.query = some (queryText r) ∧
      (u.path = .segments (baseSegments host folder ++ segments r.resource) ↔
        r.resource.HasNoDots) := by
  obtain ⟨htext, parsed, hparsed⟩ :=
    root_of_folder h (fun s hs => ⟨(hfolder s hs).1, (hfolder s hs).2.1⟩) haddress hroot
  have hbase : ∀ s ∈ baseSegments host folder, IsSafe s :=
    isSafe_of_mem_baseSegments fun s hs => (hfolder s hs).2
  have hinert : ∀ s ∈ baseSegments host folder ++ segments r.resource, ∀ c ∈ s,
      isInert c = true :=
    List.forall_mem_append.mpr ⟨fun s hs => (hbase s hs).1, isInert_of_mem_segments r.resource⟩
  have hurl := url_eq_steps h (fun s hs => (hbase s hs).1) hparsed (c := ⟨text, credentials⟩)
    htext r
  refine ⟨htext, fun identifier _ => plain?_segment identifier, parsed, _, hparsed, hurl, rfl, rfl,
    rfl, rfl, ?_⟩
  rw [Url.Path.segments.injEq, Url.addSegments_eq_iff hinert, List.forall_mem_append,
    ← isSafe_segments_iff]
  constructor
  · intro hdots s hs
    exact ⟨isInert_of_mem_segments r.resource s hs, hdots.2 s hs⟩
  · intro hsafe
    exact ⟨fun s hs => (hbase s hs).2, fun s hs => (hsafe s hs).2⟩

end Requests

/-- On a server below a folder, a commit whose name is full of marks stays in its segment. -/
theorem url_stays_iff_marks :
    IsPlainHost "h".toList ∧ (∀ s ∈ ["p".toList], s ≠ [] ∧ IsSafe s) ∧
      "http://h/p".toList = "http://".toList ++ "h".toList ++ pathText ["p".toList] ∧
      root "http://h/p" = .ok "http://h/p/rest" ∧
      ∃ u, Client.url ⟨"http://h/p/rest", none⟩ ⟨.buildStatuses "../é?", some 0⟩ = .ok u ∧
        u.path = .segments ["p".toList, "rest".toList, "build-status".toList, "1.0".toList,
          "commits".toList, "..%2F%C3%A9%3F".toList] := by
  have hhost : IsPlainHost "h".toList := ⟨by decide, by decide⟩
  have hfolder : ∀ s ∈ ["p".toList], s ≠ [] ∧ IsSafe s := by decide
  have haddress :
      "http://h/p".toList = "http://".toList ++ "h".toList ++ pathText ["p".toList] := by decide
  have hroot : root "http://h/p" = .ok "http://h/p/rest" := by decide +kernel
  obtain ⟨-, -, parsed, u, -, hu, -, -, -, -, hpath⟩ :=
    url_stays_iff hhost hfolder haddress hroot none ⟨.buildStatuses "../é?", some 0⟩
  have hdots : "../é?" ∉ [".", ".."] := by decide
  exact ⟨hhost, hfolder, haddress, hroot, u, hu, hpath.mpr hdots⟩

/-- The requests for the builds of a commit named with two dots, and for the pull requests of a
project of that name, go somewhere else. -/
theorem url_leaves :
    root "http://h" = .ok "http://h/rest" ∧
      (Client.url ⟨"http://h/rest", none⟩ ⟨.buildStatuses "..", none⟩).map Url.path =
        .ok (.segments ["rest".toList, "build-status".toList, "1.0".toList, []]) ∧
      (Client.url ⟨"http://h/rest", none⟩ ⟨.pullRequests ⟨"..", "R"⟩, none⟩).map Url.path =
        .ok (.segments ["rest".toList, "api".toList, "1.0".toList, "repos".toList, "R".toList,
          "pull-requests".toList]) ∧
      baseSegments "h".toList [] ++ segments (.buildStatuses "..") =
        ["rest".toList, "build-status".toList, "1.0".toList, "commits".toList, "..".toList] := by
  decide +kernel

end Rest

end OpenPulls
