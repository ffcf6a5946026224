import OpenPulls.Proofs.Rest.Endpoints
import OpenPulls.Proofs.Rest.Trimming
import OpenPulls.Proofs.Url.Extension

/-!
# Addresses that lead to the interface

The root of the interface is made of the text of an address, and requests are made of the text of
the root. Both times something is written behind a text, and only what comes out is read as an
address. That is what was meant if the text of the address is a place where a path can go on.

* `Client.Reaches`: a request for pull requests goes to the interface of the server.
* `LeadsOn`: a path can go on where the text of the address ends, and the text ends in the name of
  the interface just when the path does.
* `reaches_iff_leadsOn`: the second is what the first needs.

Whether a text is a place where a path can go on comes of `Url.parse_append`. Of two paths that are
the same up to slashes at their ends, the interface goes behind the one in the same way as behind
the other only if there are no such slashes (`append_eq_dropEnd_append_iff`).

The client takes other addresses too, and they lead away (`leadsAway_all`).
-/

namespace OpenPulls.Rest

open Url (pathText EndsInSlash)

/-! ## Slashes at the end -/

section Slashes

theorem dropEnd_eq_self {text : List Char} (h : ¬ EndsInSlash text) :
    Text.dropEnd (· == '/') text = text := by
  refine dropEnd_of_last fun c hc => beq_eq_false_iff_ne.mpr ?_
  rintro rfl
  exact h hc

/-- The name of the interface stands behind a path in the same way with and without the slashes at
its end, only if it has none. -/
theorem append_eq_dropEnd_append_iff {path a b : List Char} (ha : a = [] ∨ a = rootPath)
    (hb : b = [] ∨ b = rootPath) :
    path ++ a = Text.dropEnd (· == '/') path ++ b ↔ ¬ EndsInSlash path ∧ a = b := by
  constructor
  · intro h
    obtain ⟨dropped, hpath, hslash⟩ := exists_append_dropEnd (· == '/') path
    have hdropped : dropped ++ a = b := by
      have hboth : Text.dropEnd (· == '/') path ++ (dropped ++ a) =
          Text.dropEnd (· == '/') path ++ b := by
        rw [← List.append_assoc, ← hpath, h]
      exact List.append_cancel_left hboth
    have hnil : dropped = [] := by
      rcases ha with rfl | rfl
      · rw [List.append_nil] at hdropped
        subst hdropped
        rcases hb with hb | hb
        · exact hb
        · exact absurd (hslash 'r' (hb ▸ by decide)) (by decide)
      · have hlength := congrArg List.length hdropped
        rw [List.length_append] at hlength
        rcases hb with rfl | rfl
        · exact absurd hlength (by simp [rootPath])
        · exact List.eq_nil_of_length_eq_zero (by omega)
    subst hnil
    refine ⟨fun hends => ?_, hdropped⟩
    rw [List.append_nil] at hpath
    rw [EndsInSlash, hpath] at hends
    cases getLast?_dropEnd hends
  · rintro ⟨hends, rfl⟩
    rw [dropEnd_eq_self hends]

end Slashes

/-! ## Requests for pull requests -/

/-- The path of the interface of a server whose own path is `folder`. -/
def interfacePath (folder : List Char) : List Char :=
  if rootPath.isSuffixOf folder then folder else folder ++ rootPath

/-- The path of the pull requests of a repository below the interface. -/
def pullRequestsPath (repository : Repository) : List Char :=
  "/api/1.0/projects/".toList ++ repository.project.toList ++ "/repos/".toList ++
    repository.slug.toList ++ "/pull-requests".toList

/-- The client asks the interface of the server at the address for the pull requests of a
repository. -/
def Client.Reaches (c : Client) (u : Url) (repository : Repository) (start : Option UInt64) :
    Prop :=
  ∃ v, c.url ⟨.pullRequests repository, start⟩ = .ok v ∧ v.scheme = u.scheme ∧
    v.host? = u.host? ∧ v.port? = u.port? ∧
    v.path.text = interfacePath (Text.dropEnd (· == '/') u.path.text) ++
      pullRequestsPath repository ∧
    v.query = some (queryText ⟨.pullRequests repository, start⟩)

/-- A path can be written behind the text of the address, and the text ends in the name of the
interface if the path of the address does. -/
structure LeadsOn (text : List Char) (u : Url) : Prop where
  noQuery : u.query = none
  noFragment : u.fragment = none
  noBackslash : text.getLast? ≠ some '\\'
  noEmptySegment : ¬ "//".toList <:+ u.path.text
  suffix_iff : rootPath.isSuffixOf text = true ↔
    rootPath.isSuffixOf (Text.dropEnd (· == '/') u.path.text) = true

section Reaches

variable {repository : Repository}

/-- A query is all that is added. -/
theorem addQuery_eq (u : Url) (pairs : List (List Char × List Char)) :
    ∃ query, u.addQuery pairs = { u with query := some query } := by
  unfold Url.addQuery
  simp only []
  split <;> exact ⟨_, rfl⟩

/-- The name of the interface, unless the text ends in it. -/
def ending (text : List Char) : List Char := if rootPath.isSuffixOf text then [] else rootPath

theorem ending_cases (text : List Char) : ending text = [] ∨ ending text = rootPath := by
  unfold ending
  split
  · exact .inl rfl
  · exact .inr rfl

theorem ending_inj {text text' : List Char} : ending text = ending text' ↔
    (rootPath.isSuffixOf text = true ↔ rootPath.isSuffixOf text' = true) := by
  unfold ending
  cases rootPath.isSuffixOf text <;> cases rootPath.isSuffixOf text' <;> decide

theorem interfacePath_eq (folder : List Char) : interfacePath folder = folder ++ ending folder := by
  unfold interfacePath ending
  split
  · rw [List.append_nil]
  · rfl

/-- Letters and digits are written as they are. -/
theorem segment_of_isAlphanum {identifier : String}
    (h : ∀ c ∈ identifier.toList, c.isAlphanum = true) : segment identifier = identifier.toList :=
  Percent.encode_of_forall fun c hc => by rw [Percent.isUnreserved, h c hc, Bool.true_or]

theorem noDot_of_isAlphanum {identifier : String}
    (h : ∀ c ∈ identifier.toList, c.isAlphanum = true) : identifier ∉ [".", ".."] := by
  simp only [List.mem_cons, List.not_mem_nil, or_false]
  rintro (rfl | rfl) <;> exact absurd (h '.' (by decide)) (by decide)

/-- What the root is made of. -/
theorem root_eq_ok {address text : String} (h : root address = .ok text) :
    trimmed address.toList ≠ [] ∧
      text.toList = trimmed address.toList ++ ending (trimmed address.toList) := by
  unfold ending
  unfold root at h
  simp only [] at h
  split at h
  next => cases h
  next hempty =>
    refine ⟨fun hnil => hempty (List.isEmpty_iff.mpr hnil), ?_⟩
    split at h
    next => cases h
    next =>
      split at h
      next hsuffix =>
        cases h
        rw [String.toList_ofList, if_pos hsuffix, List.append_nil]
      next hsuffix =>
        cases h
        rw [String.toList_ofList, if_neg hsuffix]

/-- No address has the path of its interface for its own path, but for slashes. -/
theorem ne_interfacePath_append (path : List Char) (repository : Repository) :
    path ≠ interfacePath (Text.dropEnd (· == '/') path) ++ pullRequestsPath repository := by
  intro h
  obtain ⟨dropped, hpath, hslash⟩ := exists_append_dropEnd (· == '/') path
  rw [interfacePath_eq, List.append_assoc] at h
  have hdropped : dropped = ending _ ++ pullRequestsPath repository :=
    List.append_cancel_left (hpath.symm.trans h)
  have hletter : 's' ∈ pullRequestsPath repository :=
    List.mem_append_right _ (by decide)
  exact absurd (hslash 's' (hdropped ▸ List.mem_append_right _ hletter)) (by decide)

theorem path_pullRequests (hproject : ∀ c ∈ repository.project.toList, c.isAlphanum = true)
    (hslug : ∀ c ∈ repository.slug.toList, c.isAlphanum = true) :
    path (.pullRequests repository) = pullRequestsPath repository := by
  have hpath : path (.pullRequests repository) =
      repositoryPath repository ++ "/pull-requests".toList := by
    unfold path
    rfl
  unfold pullRequestsPath
  rw [hpath]
  unfold repositoryPath
  rw [segment_of_isAlphanum hproject, segment_of_isAlphanum hslug]

/-- Where slashes were trimmed, only a backslash can stand at the end of a path. -/
theorem ends_in_backslash_iff {path : List Char} {c : Char} (hslash : c ≠ '/')
    (hlast : path = [] ∧ Url.endsAuthority true c = false ∨ path.getLast? = some c) :
    (∃ d, path.getLast? = some d ∧ Url.isSlash true d = true) ↔ c = '\\' := by
  rcases hlast with ⟨rfl, hends⟩ | hlast
  · constructor
    · rintro ⟨d, hd, -⟩
      cases hd
    · rintro rfl
      cases hends
  · rw [hlast]
    simp [Url.isSlash, hslash]

/-- What is asked for are segments behind the address. -/
theorem exists_segments (text : List Char) {r : Resource} (hr : r.HasNoDots) :
    ∃ more, more ≠ [] ∧ (∀ s ∈ more, IsSafe s) ∧ pathText more = ending text ++ path r := by
  have hne : segments r ≠ [] := by cases r <;> simp [segments, repositorySegments]
  have hsafe := isSafe_of_mem_segments hr
  rw [path_eq]
  rcases ending_cases text with h | h
  · exact ⟨segments r, hne, hsafe, by rw [h, List.nil_append]⟩
  · have hrest : IsSafe "rest".toList := by decide
    exact ⟨"rest".toList :: segments r, List.cons_ne_nil _ _,
      List.forall_mem_cons.mpr ⟨hrest, hsafe⟩, by rw [h]; rfl⟩

/-- What a request is depends on what the text of its path is read as. -/
theorem reaches_iff {c : Client} {u v : Url} {start : Option UInt64}
    (hv : Url.parse (c.root.toList ++ path (.pullRequests repository)) = .ok v)
    (hscheme : v.scheme = u.scheme) (hauthority : v.authority = u.authority) :
    c.Reaches u repository start ↔
      v.path.text = interfacePath (Text.dropEnd (· == '/') u.path.text) ++
        pullRequestsPath repository ∧
      (v.addQuery (pairs ⟨.pullRequests repository, start⟩)).query =
        some (queryText ⟨.pullRequests repository, start⟩) := by
  obtain ⟨query, hadd⟩ := addQuery_eq v (pairs ⟨.pullRequests repository, start⟩)
  have hurl : c.url ⟨.pullRequests repository, start⟩ = .ok { v with query := some query } := by
    rw [← hadd, Client.url, hv]
    rfl
  rw [hadd]
  unfold Client.Reaches
  rw [hurl]
  constructor
  · rintro ⟨_, ⟨⟩, -, -, -, hpath, hquery⟩
    exact ⟨hpath, hquery⟩
  · rintro ⟨hpath, hquery⟩
    refine ⟨_, rfl, hscheme, ?_, ?_, hpath, hquery⟩
    · rw [Url.host?, Url.host?, hauthority]
    · rw [Url.port?, Url.port?, hauthority, hscheme]

section Cases

variable {c : Client} {u : Url} {rest : List Char} {more : List (List Char)}
  {start : Option UInt64}

/-- With a query or a fragment, the path of a request does not get into the path of the address. -/
theorem not_reaches_of_ends (hu : u = Url.finish u.scheme u.authority [] rest)
    (hurl : Url.parse (c.root.toList ++ path (.pullRequests repository)) =
      .ok (Url.finish u.scheme u.authority [] (rest ++ pathText more)))
    (hrest : ∃ d ∈ rest, Url.endsPath d = true) :
    ¬ c.Reaches u repository start ∧ (u.query ≠ none ∨ u.fragment ≠ none) := by
  obtain ⟨hpath, hsome⟩ :=
    Url.finish_append_of_ends u.scheme u.authority hrest (pathText more)
  rw [← hu] at hpath hsome
  refine ⟨fun h => ?_, hsome⟩
  have htext := ((reaches_iff hurl (Url.finish_scheme _) (Url.finish_authority _)).mp h).1
  rw [hpath] at htext
  exact ne_interfacePath_append _ _ htext

/-- Otherwise it goes behind that. -/
theorem reaches_iff_of_continues {text front : List Char}
    (hu : u = Url.finish u.scheme u.authority [] rest)
    (hurl : Url.parse (c.root.toList ++ path (.pullRequests repository)) =
      .ok (Url.finish u.scheme u.authority [] (rest ++ pathText more)))
    (hfront : Url.Continues u.scheme u.authority rest front) (hmore : more ≠ [])
    (hsafe : ∀ s ∈ more, IsSafe s)
    (hending : pathText more = ending text ++ pullRequestsPath repository) :
    c.Reaches u repository start ↔ ¬ EndsInSlash front ∧ (rootPath.isSuffixOf text = true ↔
      rootPath.isSuffixOf (Text.dropEnd (· == '/') u.path.text) = true) := by
  obtain ⟨parts, hparts, hpath⟩ :=
    hfront.append more hmore (fun s hs => (hsafe s hs).1) fun s hs => (hsafe s hs).2
  have hdrop := hfront.dropEnd_eq
  rw [← hu] at hdrop
  rw [hparts] at hurl
  rw [reaches_iff (u := u) hurl rfl rfl, addQuery_pairs rfl, and_iff_left rfl]
  show pathText parts = _ ↔ _
  rw [hpath, hending, hdrop, interfacePath_eq, ← List.append_assoc, List.append_left_inj,
    append_eq_dropEnd_append_iff (ending_cases _) (ending_cases _), ending_inj]

end Cases

/-- **An address leads on to the interface of its server** exactly if a path can be written behind
its text. Then a request for pull requests goes to the server that the address names, below the path
of the address; otherwise it goes somewhere else. -/
theorem reaches_iff_leadsOn {address : String} {c : Client} (hroot : root address = .ok c.root)
    {u : Url} (hu : Url.parse (trimmed address.toList) = .ok u)
    (hscheme : u.scheme = "http".toList ∨ u.scheme = "https".toList)
    (hedge : ∀ c ∈ (trimmed address.toList).getLast?, Url.isEdge c = false)
    (hproject : ∀ c ∈ repository.project.toList, c.isAlphanum = true)
    (hslug : ∀ c ∈ repository.slug.toList, c.isAlphanum = true)
    (start : Option UInt64) :
    c.Reaches u repository start ↔ LeadsOn (trimmed address.toList) u := by
  obtain ⟨hne, htext⟩ := root_eq_ok hroot
  have hspecial : Url.isSpecial u.scheme = true := by rcases hscheme with h | h <;> rw [h] <;> rfl
  have hfile : u.scheme ≠ Url.fileScheme := by
    rcases hscheme with h | h <;> rw [h] <;> decide
  obtain ⟨d, hd⟩ : ∃ d, (trimmed address.toList).getLast? = some d :=
    Option.ne_none_iff_exists'.mp (by simpa using hne)
  have hslash : (d == '/') = false := getLast?_dropEnd (p := (· == '/')) hd
  have hdots : (Resource.pullRequests repository).HasNoDots :=
    ⟨noDot_of_isAlphanum hproject, noDot_of_isAlphanum hslug⟩
  obtain ⟨more, hmore, hsafe, hending⟩ := exists_segments (trimmed address.toList) hdots
  obtain ⟨rest, hfinish, hends, hlast, hparse⟩ :=
    Url.parse_append hd (hedge d hd) hu hspecial hfile
  have hurl : Url.parse (c.root.toList ++ path (.pullRequests repository)) =
      .ok (Url.finish u.scheme u.authority [] (rest ++ pathText more)) := by
    rw [htext, List.append_assoc, ← hending]
    exact hparse (pathText more) (Url.endsAuthority_pathText more) fun d hd =>
      (Url.endsPath_of_mem_pathText (fun s hs => (hsafe s hs).1) d hd).2.1
  rw [path_pullRequests hproject hslug] at hending
  by_cases hquery : ∃ d ∈ rest, Url.endsPath d = true
  · obtain ⟨hnot, hsome⟩ := not_reaches_of_ends hfinish hurl hquery
    exact iff_of_false hnot fun h => hsome.elim (absurd h.noQuery) (absurd h.noFragment)
  · have hnone : ∀ d ∈ rest, Url.endsPath d = false := fun d hd =>
      Bool.eq_false_iff.mpr fun h => hquery ⟨d, hd, h⟩
    obtain ⟨front, hfront⟩ := Url.exists_continues hspecial u.authority hends hnone
    have hnoQuery := hfront.noQuery
    have hnoFragment := hfront.noFragment
    rw [← hfinish] at hnoQuery hnoFragment
    rw [reaches_iff_of_continues hfinish hurl hfront hmore hsafe hending, hfront.endsInSlash_iff,
      ← hfinish, ends_in_backslash_iff (beq_eq_false_iff_ne.mp hslash) hlast,
      ← Option.some.injEq, ← hd, not_or]
    constructor
    · rintro ⟨⟨hend, hempty⟩, hsuffix⟩
      exact ⟨hnoQuery, hnoFragment, hend, hempty, hsuffix⟩
    · intro h
      exact ⟨⟨h.noBackslash, h.noEmptySegment⟩, h.suffix_iff⟩

end Reaches

/-- The address of a server below a folder leads on. -/
theorem reaches_iff_leadsOn_folder :
    root "https://h:8443/bitbucket/" = .ok "https://h:8443/bitbucket/rest" ∧
      ∃ u, Url.parse (trimmed "https://h:8443/bitbucket/".toList) = .ok u ∧
        u.scheme = "https".toList ∧
        Client.Reaches ⟨"https://h:8443/bitbucket/rest", none⟩ u ⟨"P1", "r"⟩ (some 7) := by
  let u : Url :=
    { scheme := "https".toList
      authority := some ⟨[], [], some (.domain "h".toList), some 8443⟩
      path := .segments ["bitbucket".toList]
      query := none
      fragment := none }
  have hroot : root "https://h:8443/bitbucket/" = .ok "https://h:8443/bitbucket/rest" := by
    decide +kernel
  have hu : Url.parse (trimmed "https://h:8443/bitbucket/".toList) = .ok u := by decide +kernel
  have hlead : LeadsOn (trimmed "https://h:8443/bitbucket/".toList) u :=
    ⟨rfl, rfl, by decide +kernel, by decide +kernel, by decide +kernel⟩
  have hlast : (trimmed "https://h:8443/bitbucket/".toList).getLast? = some 't' := by decide +kernel
  have hedge : ∀ c ∈ (trimmed "https://h:8443/bitbucket/".toList).getLast?,
      Url.isEdge c = false := by
    rw [hlast]
    rintro _ ⟨⟩
    rfl
  have hproject : ∀ c ∈ "P1".toList, c.isAlphanum = true := List.all_eq_true.mp (by decide)
  have hslug : ∀ c ∈ "r".toList, c.isAlphanum = true := List.all_eq_true.mp (by decide)
  exact ⟨hroot, u, hu, rfl,
    (reaches_iff_leadsOn (c := ⟨"https://h:8443/bitbucket/rest", none⟩) hroot hu (.inr rfl) hedge
      hproject hslug (some 7)).mpr hlead⟩

instance (c : Client) (u : Url) (repository : Repository) (start : Option UInt64) :
    Decidable (c.Reaches u repository start) :=
  match h : c.url ⟨.pullRequests repository, start⟩ with
  | .error _ => isFalse fun ⟨_, hv, _⟩ => nomatch h.symm.trans hv
  | .ok v =>
    decidable_of_iff (v.scheme = u.scheme ∧ v.host? = u.host? ∧ v.port? = u.port? ∧
        v.path.text = interfacePath (Text.dropEnd (· == '/') u.path.text) ++
          pullRequestsPath repository ∧
        v.query = some (queryText ⟨.pullRequests repository, start⟩))
      ⟨fun hall => ⟨v, h, hall⟩, fun ⟨v', hv, hall⟩ => by
        rw [h] at hv
        cases hv
        exact hall⟩

/-- The address is taken for that of a server, but requests do not go to the interface of that
server. -/
def leadsAway (address : String) : Bool :=
  match root address, Url.parse (trimmed address.toList) with
  | .ok text, .ok u =>
    u.scheme == "http".toList && !decide (Client.Reaches ⟨text, none⟩ u ⟨"P", "R"⟩ none)
  | _, _ => false

/-- Addresses that lead away: with a query, with a fragment, with a host or a dot where the name of
the interface is looked for, with a slash of the other kind or an empty segment at the end, and with
a control or a blank at the end. -/
theorem leadsAway_all :
    ["http://h?x=1", "http://h#f", "http://rest", "http://h/rest/.", "http://h\\", "http://h//.",
      "http://h/p\x01", "http://h/p /"].all leadsAway = true := by
  decide +kernel

end OpenPulls.Rest
