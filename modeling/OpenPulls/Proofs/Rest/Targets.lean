import OpenPulls.Proofs.Rest.Endpoints
import OpenPulls.Proofs.Rest.Sent

/-!
# Targets

The target of an HTTP request is its path and its query. On a server with a plain host, it says
which page it is for: different page requests have different targets (`target_eq_iff`).

The target is read back part by part. Neither the path nor the query has a question mark, so the
first one is between them. A segment has no slash, so the slashes of the path are between its
segments (`pathText_inj`). The three endpoints differ in number or in names of their segments
(`segments_inj`). And a segment says what its identifier is, as digits say what their number is.
-/

namespace OpenPulls

open Http
open Url (pathText)

namespace Rest

/-! ## Paths -/

theorem segment_inj {identifier identifier' : String} :
    segment identifier = segment identifier' ↔ identifier = identifier' := by
  refine ⟨fun h => ?_, fun h => h ▸ rfl⟩
  have hplain := congrArg plain? h
  rw [plain?_segment, plain?_segment] at hplain
  exact String.toList_inj.mp (Option.some.inj hplain)

theorem decimal_inj {n n' : Nat} : decimal n = decimal n' ↔ n = n' := by
  refine ⟨fun h => ?_, fun h => h ▸ rfl⟩
  have hvalue := congrArg (Nat.ofDigitChars 10 · 0) h
  simpa only [decimal, Nat.ofDigitChars_ten_toDigits] using hvalue

/-- A path says what its segments are. -/
theorem pathText_inj {first second : List (List Char)}
    (hfirst : ∀ s ∈ first, ∀ c ∈ s, isInert c = true)
    (hsecond : ∀ s ∈ second, ∀ c ∈ s, isInert c = true)
    (h : pathText first = pathText second) : first = second := by
  have hparts := congrArg (Domain.splitWhere (Url.isSlash true)) h
  rw [← List.nil_append (pathText first), ← List.nil_append (pathText second),
    Url.splitWhere_pathText [] hfirst, Url.splitWhere_pathText [] hsecond] at hparts
  exact List.append_cancel_left hparts

theorem repositorySegments_inj {repository repository' : Repository}
    (h : repositorySegments repository = repositorySegments repository') :
    repository = repository' := by
  obtain ⟨project, slug⟩ := repository
  obtain ⟨project', slug'⟩ := repository'
  simp only [repositorySegments, List.cons.injEq, segment_inj, true_and, and_true] at h
  rw [h.1, h.2]

/-- **The segments say what the resource is.** The endpoints have paths of different lengths. -/
theorem segments_inj {r r' : Resource} (h : segments r = segments r') : r = r' := by
  have hlength := congrArg List.length h
  cases r with
  | pullRequests repository =>
    cases r' with
    | pullRequests repository' =>
      rw [repositorySegments_inj (List.append_cancel_right h)]
    | buildStatuses commit' => simp [segments, repositorySegments] at hlength
    | commits repository' number' => simp [segments, repositorySegments] at hlength
  | buildStatuses commit =>
    cases r' with
    | pullRequests repository' => simp [segments, repositorySegments] at hlength
    | buildStatuses commit' =>
      simp only [segments, List.cons.injEq, segment_inj, true_and, and_true] at h
      rw [h]
    | commits repository' number' => simp [segments, repositorySegments] at hlength
  | commits repository number =>
    cases r' with
    | pullRequests repository' => simp [segments, repositorySegments] at hlength
    | buildStatuses commit' => simp [segments, repositorySegments] at hlength
    | commits repository' number' =>
      obtain ⟨hrepository, hnumber⟩ := List.append_inj h rfl
      simp only [List.cons.injEq, decimal_inj, UInt64.toNat_inj, true_and, and_true] at hnumber
      rw [repositorySegments_inj hrepository, hnumber]

/-! ## Queries -/

theorem queryText_inj {r r' : PageRequest} (h : queryText r = queryText r') :
    r.start = r'.start := by
  have hstart := List.append_cancel_left h
  cases hr : r.start with
  | none =>
    cases hr' : r'.start with
    | none => rfl
    | some start' => simp [hr, hr'] at hstart
  | some start =>
    cases hr' : r'.start with
    | none => simp [hr, hr'] at hstart
    | some start' =>
      rw [hr, hr'] at hstart
      have hdigits : decimal start.toNat = decimal start'.toNat := List.append_cancel_left hstart
      rw [UInt64.toNat_inj.mp (decimal_inj.mp hdigits)]

theorem questionMark_notMem_queryText (r : PageRequest) : '?' ∉ queryText r := by
  have hdigits (n : Nat) : '?' ∉ decimal n := fun h => by cases isDigit_of_mem_decimal h
  unfold queryText
  cases r.start with
  | none => decide
  | some start => simp [hdigits]

theorem questionMark_notMem_pathText {segments : List (List Char)}
    (hsegments : ∀ s ∈ segments, ∀ c ∈ s, isInert c = true) : '?' ∉ pathText segments := by
  intro hmem
  obtain ⟨s, hs, hmark⟩ := List.mem_flatMap.mp hmem
  rcases List.mem_cons.mp hmark with h | h
  · cases h
  · exact absurd (hsegments s hs _ h) (by decide)

/-! ## Targets -/

/-- **A target says which page it is for.** -/
theorem target_inj {host : List Char} {r r' : PageRequest} (h : target host r = target host r') :
    r = r' := by
  have hsegments := isInert_of_mem_segments r.resource
  have hsegments' := isInert_of_mem_segments r'.resource
  unfold target at h
  rw [path_eq, path_eq, List.append_assoc, List.append_assoc] at h
  obtain ⟨hpath, -, hquery⟩ := (List.append_cons_inj_of_notMem
    (questionMark_notMem_pathText hsegments) (questionMark_notMem_queryText r)).mp
    (List.append_cancel_left h)
  obtain ⟨resource, start⟩ := r
  obtain ⟨resource', start'⟩ := r'
  obtain rfl : resource = resource' := segments_inj (pathText_inj hsegments hsegments' hpath)
  obtain rfl : start = start' := queryText_inj hquery
  rfl

variable {ς : Type}

/-- The target of what is sent first for a page request. -/
theorem target_of_sent {host : List Char} (h : IsPlainHost host) {parsed : Host}
    (hparsed : Host.parse host = .ok parsed) {c : Client}
    (hroot : c.root.toList = "http://".toList ++ host ++ pathText (rootSegments host))
    {server : Server ς} {w : Wire ς} {r : PageRequest} (hr : r.resource.HasNoDots)
    {e : Http.Exchange} (he : c.SendsFirst server w r e) :
    e.request.url.target = target host r := by
  have hrequest := he.request
  rw [Client.request?, url_eq h hparsed hroot hr] at hrequest
  have hurl : (request c.credentials (pageUrl host parsed r)).url = pageUrl host parsed r := rfl
  simp only at hrequest
  split at hrequest
  · rw [← Option.some.inj hrequest, hurl, target_pageUrl]
  · cases hrequest

/-- **Different page requests have different targets.** Let the address of a server be the scheme
`http` and a plain host, and let something be sent for two page requests without identifiers of
dots. The targets of what is sent first are the same only for the same resource and the same
cursor. -/
theorem target_eq_iff {host : List Char} (h : IsPlainHost host) {address text : String}
    (haddress : address.toList = "http://".toList ++ host) (hroot : root address = .ok text)
    (credentials : Option Credentials) {server server' : Server ς} {w w' : Wire ς}
    {r r' : PageRequest} (hr : r.resource.HasNoDots) (hr' : r'.resource.HasNoDots)
    {e e' : Http.Exchange} (he : Client.SendsFirst ⟨text, credentials⟩ server w r e)
    (he' : Client.SendsFirst ⟨text, credentials⟩ server' w' r' e') :
    e.request.url.target = e'.request.url.target ↔ r = r' := by
  obtain ⟨htext, parsed, hparsed⟩ := root_of_plainHost h haddress hroot
  rw [target_of_sent h hparsed htext hr he, target_of_sent h hparsed htext hr' he']
  refine ⟨target_inj, fun heq => ?_⟩
  rw [heq]

/-- A slash is not taken for its percent-encoding, nor is that taken for a slash. -/
theorem target_eq_iff_slash :
    let c : Client := ⟨"http://h/rest", none⟩
    let server : Server Unit := unreachable
    let r : PageRequest := ⟨.buildStatuses "a%2Fb", some 7⟩
    let r' : PageRequest := ⟨.buildStatuses "a/b", some 7⟩
    IsPlainHost "h".toList ∧ "http://h".toList = "http://".toList ++ "h".toList ∧
      root "http://h" = .ok "http://h/rest" ∧ r.resource.HasNoDots ∧ r'.resource.HasNoDots ∧
      ∃ e e', c.SendsFirst server ⟨(), []⟩ r e ∧ c.SendsFirst server ⟨(), []⟩ r' e' ∧
        e.request.url.target ≠ e'.request.url.target := by
  intro c server r r'
  have hhost : IsPlainHost "h".toList := ⟨by decide, by decide⟩
  have haddress : "http://h".toList = "http://".toList ++ "h".toList := by decide
  have hroot : root "http://h" = .ok "http://h/rest" := by decide +kernel
  have hdots : r.resource.HasNoDots := show "a%2Fb" ∉ [".", ".."] by decide
  have hdots' : r'.resource.HasNoDots := show "a/b" ∉ [".", ".."] by decide
  have hlength : (c.source server ⟨(), []⟩ r).2.log.length = 1 := by decide +kernel
  have hlength' : (c.source server ⟨(), []⟩ r').2.log.length = 1 := by decide +kernel
  obtain ⟨e, hlog⟩ := List.length_eq_one_iff.mp hlength
  obtain ⟨e', hlog'⟩ := List.length_eq_one_iff.mp hlength'
  have he : c.SendsFirst server ⟨(), []⟩ r e := ⟨[], hlog⟩
  have he' : c.SendsFirst server ⟨(), []⟩ r' e' := ⟨[], hlog'⟩
  have hne : r ≠ r' := by decide
  refine ⟨hhost, haddress, hroot, hdots, hdots', e, e', he, he', fun htargets => hne ?_⟩
  exact (target_eq_iff hhost haddress hroot none hdots hdots' he he').mp htargets

end Rest

end OpenPulls
