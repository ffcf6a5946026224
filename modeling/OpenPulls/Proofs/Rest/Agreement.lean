import OpenPulls.Http.Route
import OpenPulls.Listing.PageTable
import OpenPulls.Proofs.PageFormat
import OpenPulls.Proofs.Requests
import OpenPulls.Proofs.Rest.Addresses
import OpenPulls.Proofs.Rest.Spelling
import OpenPulls.Proofs.Settings

/-!
# Pages in memory and pages over the wire

A listing does not care where its pages come from. If it succeeds on a table of pages, it does the
same over the wire, on a server that has these pages (`list_agrees`).

* `source_carries`: what a server carries is what the client reads, with one request.
* `uniform_sends`: what holds of one page holds of sessions, so of a listing.

The client does not request addresses of any length, and long identifiers make long addresses. Then
the two sources differ (`list_differs_longName`).
-/

namespace OpenPulls

open Http Json

/-! ## Tables -/

/-- No commit with builds in the table is one dot or two. -/
def PageTable.HasNoDots (table : PageTable) : Prop :=
  ∀ commit start page, table.builds commit start = some page → commit ∉ [".", ".."]

theorem PageTable.HasNoDots.resource {table : PageTable} (h : table.HasNoDots) {s : Selection}
    (hs : (Resource.pullRequests s.repository).HasNoDots) {r : PageRequest} {page : Page r.Item}
    (hr : r.resource.ServesListing s) (hpage : table.page? r = some page) :
    r.resource.HasNoDots := by
  obtain ⟨r, start⟩ := r
  cases r with
  | pullRequests repository =>
    obtain rfl : repository = s.repository := hr
    exact hs
  | buildStatuses commit => exact h commit start page hpage
  | commits repository _ =>
    obtain rfl : repository = s.repository := hr
    exact hs

namespace Rest

section Sources

variable {ς : Type} {c : Client} {server : Server ς} {w : Wire ς}

/-! ## One page -/

/-- The reply carries the page: it is a success, and its body spells the page. -/
def Carries (r : Resource) (page : Page r.Item) (reply : Reply) : Prop :=
  ∃ t location, reply = .response ⟨200, location, Text.Utf8.encode t.written, true⟩ ∧
    SpellsPage r t page

theorem redirection?_success {request : Request} {response : Response}
    (h : response.status = 200) : redirection? request response = none := by
  have hstatus : isRedirect response.status = false := by rw [h]; rfl
  unfold redirection?
  cases response.location with
  | none => rfl
  | some location =>
    rw [Option.bind_eq_bind, Option.bind_some]
    cases (Url.resolve request.url location.toList).toOption with
    | none => rfl
    | some u =>
      rw [Option.bind_eq_bind, Option.bind_some, hstatus, Bool.false_and, if_neg Bool.false_ne_true]

/-- A success ends an exchange with its first request. -/
theorem exchange_success {request : Request} {response : Response} (left : Nat)
    (hrequest : isRequestable request.url = true)
    (hreply : (server w.server request).1 = .response response) (h : response.status = 200) :
    (exchange (Wire.send server) request left).run w =
      (.ok response, ((Wire.send server request).run w).2) := by
  have hsend : (Wire.send server request).run w =
      (.response response, ((Wire.send server request).run w).2) := by
    rw [← hreply]
    rfl
  unfold exchange
  rw [hrequest]
  simp only [Bool.not_true, Bool.false_eq_true, if_false, StateT.run_bind]
  rw [hsend]
  simp only [bind, redirection?_success h]
  rfl

theorem answer_carries {r : Resource} {page : Page r.Item} {t : Tree} (h : SpellsPage r t page)
    (location : Option String) :
    answer r ⟨200, location, Text.Utf8.encode t.written, true⟩ = .ok page := by
  have hpage := (page_eq_ok_iff_spellsPage r t page).mpr h
  unfold answer
  simp only [hpage]
  rfl

section Fetch

variable {host : List Char} {parsed : Host}

theorem request_pageUrl (credentials : Option Credentials) (r : PageRequest) :
    (request credentials (pageUrl host parsed r)).url = pageUrl host parsed r := rfl

theorem isRequestable_pageUrl (h : IsPlainHost host) (hparsed : Host.parse host = .ok parsed)
    {r : PageRequest} (hlength : (pageUrl host parsed r).text.length ≤ maxAddress) :
    isRequestable (pageUrl host parsed r) = true := by
  have hplace : (Url.Authority.ofHost parsed).place.all inPlace = true := by
    rw [List.all_eq_true]
    intro c hc
    rw [Url.Authority.place, Url.Authority.ofHost, Option.map_none, Option.getD_none,
      List.append_nil] at hc
    exact Url.inPlace_of_parse h hparsed c hc
  have hwritable : isWritable (pageUrl host parsed r) = true := by
    rw [isWritable, Bool.and_eq_true, decide_eq_true_eq]
    exact ⟨hplace, hlength⟩
  rw [isRequestable, hwritable, Bool.and_true]
  rfl

end Fetch

/-- A source says of a page what the client fetched. -/
theorem source_eq {r : PageRequest} {answer : Except Cause (Page r.Item)} {w' : Wire ς}
    (h : (c.fetch (Wire.send server) r).run w = (answer, w')) :
    c.source server w r = (answer.mapError fun cause => ⟨r.resource, cause⟩, w') := by
  unfold Client.source
  simp only [h]

/-- **A page that the server carries** is what the client reads, with one request. -/
theorem source_carries {r : PageRequest} {page : Page r.Item} {u : Url} (hurl : c.url r = .ok u)
    (hrequest : isRequestable (request c.credentials u).url = true)
    (hreply : Carries r.resource page (server w.server (request c.credentials u)).1) :
    c.source server w r =
      (.ok page, ((Wire.send server (request c.credentials u)).run w).2) := by
  obtain ⟨t, location, hreply, ht⟩ := hreply
  have hfetch : (c.fetch (Wire.send server) r).run w =
      (.ok page, ((Wire.send server (request c.credentials u)).run w).2) := by
    unfold Client.fetch
    simp only [hurl, StateT.run_bind]
    rw [exchange_success maxRedirects hrequest hreply rfl]
    show (answer r.resource _, _) = _
    rw [answer_carries ht]
  exact source_eq hfetch

/-- Nothing is sent for a page whose address cannot be requested. -/
theorem source_unrequestable (server : Server ς) (w : Wire ς) {r : PageRequest} {u : Url}
    (hurl : c.url r = .ok u)
    (hrequest : isRequestable (request c.credentials u).url = false) :
    c.source server w r = (.error ⟨r.resource, .transport .notRequestable⟩, w) := by
  have hfetch : (c.fetch (Wire.send server) r).run w =
      (.error (.transport .notRequestable), w) := by
    unfold Client.fetch
    simp only [hurl]
    unfold exchange
    rw [hrequest]
    rfl
  exact source_eq hfetch

/-! ## Whole runs -/

/-- From one wire to the next, one request was sent for the target of each page, in order. -/
def Sends (host : List Char) (requests : List PageRequest) (w w' : Wire ς) : Prop :=
  ∃ sent, w'.log = w.log ++ sent ∧
    sent.map (·.request.line) = requests.map fun r => "GET " ++ String.ofList (target host r)

namespace Sends

variable {host : List Char}

theorem nil (w : Wire ς) : Sends host [] w w := ⟨[], (List.append_nil _).symm, rfl⟩

theorem append {w w' w'' : Wire ς} {requests requests' : List PageRequest}
    (h : Sends host requests w w') (h' : Sends host requests' w' w'') :
    Sends host (requests ++ requests') w w'' := by
  obtain ⟨sent, hlog, hlines⟩ := h
  obtain ⟨sent', hlog', hlines'⟩ := h'
  exact ⟨sent ++ sent', by rw [hlog', hlog, List.append_assoc],
    by rw [List.map_append, List.map_append, hlines, hlines']⟩

end Sends

/-- If the client reads every page of the table that is asked for, with one request each, its
sessions do what those on the table do, as long as these go well. -/
theorem uniform_sends {table : PageTable} {host : List Char} {P : PageRequest → Prop}
    (h : ∀ r page, P r → table.page? r = some page →
      ∀ w, ∃ w', c.source server w r = (.ok page, w') ∧ Sends host [r] w w') :
    Uniform (Session.reader table.source) (Session.reader (c.source server)) fun _ t t' =>
      ∀ state w a, (t.run state).outcome = .returned a → (∀ x ∈ (t.run state).log, P x.request) →
        ∃ w', t'.run w = ⟨.returned a, (t.run state).log, w'⟩ ∧
          Sends host ((t.run state).log.map (·.request)) w w' where
  result a state w b hb _ := by
    cases hb
    exact ⟨w, rfl, .nil w⟩
  sequence {_ _ t t' next next'} ht hnext state w b hb hP := by
    cases ho : (t.run state).outcome with
    | returned a =>
      rw [Session.run_bind_returned ho] at hb hP ⊢
      obtain ⟨hfirst, hsecond⟩ := List.forall_mem_append.mp hP
      obtain ⟨w', hw', hsends⟩ := ht state w a ho hfirst
      obtain ⟨w'', hw'', hsends'⟩ := hnext a _ w' b hb hsecond
      refine ⟨w'', ?_, List.map_append ▸ hsends.append hsends'⟩
      rw [Session.run_bind_returned (by rw [hw']), hw', hw'']
    | failed f =>
      rw [Session.run_bind_failed ho] at hb
      cases hb
    | unfinished =>
      rw [Session.run_bind_unfinished ho] at hb
      cases hb
  page r state w page hpage hP := by
    simp only [Session.reader] at hpage hP ⊢
    cases ha : (table.source state r).1 with
    | error f =>
      rw [Session.run_ask_error ha] at hpage
      cases hpage
    | ok page' =>
      rw [Session.run_ask_ok ha] at hpage hP ⊢
      cases hpage
      obtain ⟨w', hw', hsends⟩ := h r page (hP _ List.mem_cons_self)
        (PageTable.source_eq_ok_iff.mp ha) w
      exact ⟨w', by rw [Session.run_ask_ok (by rw [hw']), hw'], hsends⟩
  giveUp _ _ _ _ hb _ := by cases hb

/-! ## Agreement -/

/-- The server at the host has the pages of the table that a listing may ask for. Whatever it was
asked before, it replies with such a page when the target of the page is asked for. What it is not
asked, and what other servers are asked, does not matter. -/
def Serves (server : Server ς) (host : List Char) (table : PageTable) (s : Selection) : Prop :=
  ∀ state q r page, r.resource.ServesListing s → table.page? r = some page →
    q.url.host? = (Host.parse host).toOption → q.url.port? = some 80 →
    q.url.target = target host r → Carries r.resource page (server state q).1

/-- A page of the table is read with one request, which goes to its target, if its address is short
enough. -/
theorem source_serves {host : List Char} (hhost : IsPlainHost host) {parsed : Host}
    (hparsed : Host.parse host = .ok parsed)
    (hroot : c.root.toList = "http://".toList ++ host ++ Url.pathText (rootSegments host))
    {table : PageTable} {s : Selection} (hserver : Serves server host table s) {r : PageRequest}
    {page : Page r.Item} (hr : r.resource.ServesListing s) (hdots : r.resource.HasNoDots)
    (hlength : ∀ u, c.url r = .ok u → u.text.length ≤ maxAddress)
    (hpage : table.page? r = some page) (w : Wire ς) :
    ∃ w', c.source server w r = (.ok page, w') ∧ Sends host [r] w w' := by
  have hurl := url_eq hhost hparsed hroot hdots
  have hplace : (Host.parse host).toOption = some parsed := by rw [hparsed]; rfl
  have hreply := hserver w.server (request c.credentials (pageUrl host parsed r)) r page hr hpage
    hplace.symm rfl (target_pageUrl host parsed r)
  have hrequest := isRequestable_pageUrl hhost hparsed (hlength _ hurl)
  refine ⟨_, source_carries hurl hrequest hreply, _, rfl, ?_⟩
  rw [List.map_singleton, List.map_singleton, Request.line, request_pageUrl, target_pageUrl]

/-- **The two sources agree.** If a listing of the pages in memory succeeds, then a listing over the
wire has the same result and the same log, and it sends one request for each page, in the same
order, to the target of that page. For this the host is plain, no identifier is one dot or two, and
the address of each page is short enough to be requested. -/
theorem list_agrees {settings : Settings} {s : Selection}
    (hbuild : settings.build = .ok (s, c)) {host : List Char} (hhost : IsPlainHost host)
    (haddress : settings.address.toList = "http://".toList ++ host)
    (hproject : settings.repository.project ∉ [".", ".."])
    (hslug : settings.repository.slug ∉ [".", ".."]) {table : PageTable} (htable : table.HasNoDots)
    (hserver : Serves server host table s) {limit : Nat} {ps : List ResolvedPullRequest}
    (h : (Operation.list.run table.source limit s ()).outcome = .returned ps)
    (hlength : ∀ x ∈ (Operation.list.run table.source limit s ()).log, ∀ u,
      c.url x.request = .ok u → u.text.length ≤ maxAddress) (w : Wire ς) :
    let inMemory := Operation.list.run table.source limit s ()
    let overWire := Operation.list.run (c.source server) limit s w
    overWire.outcome = .returned ps ∧ overWire.log = inMemory.log ∧
      Sends host (inMemory.log.map (·.request)) w overWire.state := by
  intro inMemory overWire
  obtain ⟨hcompile, hroot, -⟩ := Settings.build_eq_ok_iff.mp hbuild
  have hrepository := (Settings.compile_eq_ok_iff.mp hcompile).repository
  have hs : (Resource.pullRequests s.repository).HasNoDots := hrepository ▸ ⟨hproject, hslug⟩
  obtain ⟨hroot, parsed, hparsed⟩ := root_of_plainHost hhost haddress hroot
  let P (r : PageRequest) : Prop :=
    r.resource.ServesListing s ∧ ∀ u, c.url r = .ok u → u.text.length ≤ maxAddress
  have hread : ∀ r page, P r → table.page? r = some page →
      ∀ w, ∃ w', c.source server w r = (.ok page, w') ∧ Sends host [r] w w' :=
    fun r page hr hpage => source_serves hhost hparsed hroot hserver hr.1
      (htable.resource hs hr.1 hpage) hr.2 hpage
  have hlog : ∀ x ∈ inMemory.log, P x.request := fun x hx =>
    ⟨Operation.list_request table.source limit s () x hx, hlength x hx⟩
  obtain ⟨w', hw', hsends⟩ := (uniform_sends hread).perform (.inl rfl) s .list () w ps h hlog
  have hrun : overWire = ⟨.returned ps, inMemory.log, w'⟩ := hw'
  rw [hrun]
  exact ⟨rfl, rfl, hsends⟩

end Sources

/-! ### A repository with a slash in its name -/

theorem isPlainHost_letter : IsPlainHost "h".toList := ⟨by decide, by decide⟩

/-- The reply with a page. -/
def pageReply (r : Resource) (page : Page r.Item) : Reply :=
  .response ⟨200, none, Text.Utf8.encode (pageTree r page).written, true⟩

theorem carries_pageReply {r : Resource} {page : Page r.Item}
    (h : ∀ i ∈ page.items, r.IsUnmarked i) : Carries r page (pageReply r page) :=
  ⟨pageTree r page, none, rfl, spellsPage_pageTree h⟩

namespace Slashed

def settings : Settings := ⟨⟨"a/b", "R"⟩, none, some [], true, some ⟨"me", "secret"⟩, "http://h"⟩

def selection : Selection := ⟨⟨"a/b", "R"⟩, none, .allGreen, true⟩

def client : Client := ⟨"http://h/rest", some ⟨"me", "secret"⟩⟩

/-- The first page has the greatest cursor. -/
def firstPage : Page Candidate := ⟨[⟨1, "x", "refs/heads/x", "c d"⟩], some 18446744073709551615⟩

def lastPage : Page Candidate := ⟨[⟨2, "\"", "refs/heads/f", "e"⟩], none⟩

def green : Page BuildStatus := ⟨[⟨"u", .successful⟩], none⟩

def red : Page BuildStatus := ⟨[⟨"u", .successful⟩, ⟨"u", .other⟩], none⟩

def history : Page Commit := ⟨[⟨"e", false⟩, ⟨"k", false⟩], none⟩

def table : PageTable where
  pullRequests start := [(none, firstPage), (some 18446744073709551615, lastPage)].lookup start
  builds commit start :=
    [(("c d", none), green), (("e", none), red), (("k", none), green)].lookup (commit, start)
  commits number start := [((2, none), history)].lookup (number, start)

/-- What a listing asks for, in order. -/
def lines : List String :=
  ["GET /rest/api/1.0/projects/a%2Fb/repos/R/pull-requests?limit=100",
    "GET /rest/build-status/1.0/commits/c%20d?limit=100",
    "GET /rest/api/1.0/projects/a%2Fb/repos/R/pull-requests?limit=100&start=18446744073709551615",
    "GET /rest/build-status/1.0/commits/e?limit=100",
    "GET /rest/api/1.0/projects/a%2Fb/repos/R/pull-requests/2/commits?limit=100",
    "GET /rest/build-status/1.0/commits/k?limit=100"]

/-- What the server replies to a target. -/
def replies : List (String × Reply) :=
  let pulls := Resource.pullRequests ⟨"a/b", "R"⟩
  [("/rest/api/1.0/projects/a%2Fb/repos/R/pull-requests?limit=100", pageReply pulls firstPage),
    ("/rest/api/1.0/projects/a%2Fb/repos/R/pull-requests?limit=100&start=18446744073709551615",
      pageReply pulls lastPage),
    ("/rest/build-status/1.0/commits/c%20d?limit=100", pageReply (.buildStatuses "c d") green),
    ("/rest/build-status/1.0/commits/e?limit=100", pageReply (.buildStatuses "e") red),
    ("/rest/build-status/1.0/commits/k?limit=100", pageReply (.buildStatuses "k") green),
    ("/rest/api/1.0/projects/a%2Fb/repos/R/pull-requests/2/commits?limit=100",
      pageReply (.commits ⟨"a/b", "R"⟩ 2) history)]

def server : Server Unit := fun _ q =>
  ((replies.lookup (String.ofList q.url.target)).getD Route.notFound, ())

theorem mem_of_lookup {α β : Type} [BEq α] [LawfulBEq α] {l : List (α × β)} {a : α} {b : β}
    (h : l.lookup a = some b) : (a, b) ∈ l := by
  obtain ⟨l₁, l₂, rfl, -⟩ := List.lookup_eq_some_iff.mp h
  exact List.mem_append_right l₁ List.mem_cons_self

theorem serves : Serves server "h".toList table selection := by
  rintro state q ⟨r, start⟩ page hr hpage - - htarget
  unfold server
  simp only [htarget]
  cases r with
  | pullRequests repository =>
    cases hr
    have hmem := mem_of_lookup hpage
    simp only [List.mem_cons, List.not_mem_nil, or_false, Prod.mk.injEq] at hmem
    rcases hmem with ⟨rfl, rfl⟩ | ⟨rfl, rfl⟩ <;> exact carries_pageReply fun _ _ => trivial
  | buildStatuses commit =>
    have hmem := mem_of_lookup hpage
    simp only [List.mem_cons, List.not_mem_nil, or_false, Prod.mk.injEq] at hmem
    rcases hmem with ⟨⟨rfl, rfl⟩, rfl⟩ | ⟨⟨rfl, rfl⟩, rfl⟩ | ⟨⟨rfl, rfl⟩, rfl⟩ <;>
      exact carries_pageReply fun _ _ => trivial
  | commits repository number =>
    cases hr
    have hmem := mem_of_lookup hpage
    simp only [List.mem_cons, List.not_mem_nil, or_false, Prod.mk.injEq] at hmem
    obtain ⟨⟨rfl, rfl⟩, rfl⟩ := hmem
    exact carries_pageReply (List.forall_mem_cons.mpr ⟨rfl, List.forall_mem_singleton.mpr rfl⟩)

theorem hasNoDots : table.HasNoDots := by
  intro commit start page hpage
  have hmem := mem_of_lookup hpage
  simp only [List.mem_cons, List.not_mem_nil, or_false, Prod.mk.injEq] at hmem
  rcases hmem with ⟨⟨rfl, -⟩, -⟩ | ⟨⟨rfl, -⟩, -⟩ | ⟨⟨rfl, -⟩, -⟩ <;> decide

end Slashed

open Slashed in
/-- The head of the second pull request is not green, so its commits are read as well. -/
theorem list_agrees_slashed :
    settings.build = .ok (selection, client) ∧ IsPlainHost "h".toList ∧
      settings.address.toList = "http://".toList ++ "h".toList ∧
      settings.repository.project ∉ [".", ".."] ∧ settings.repository.slug ∉ [".", ".."] ∧
      table.HasNoDots ∧ Serves server "h".toList table selection ∧
      (Operation.list.run table.source 2 selection ()).outcome =
        .returned [⟨1, "x", "c d"⟩, ⟨2, "\"", "k"⟩] ∧
      (∀ x ∈ (Operation.list.run table.source 2 selection ()).log, ∀ u,
        client.url x.request = .ok u → u.text.length ≤ maxAddress) ∧
      (Operation.list.run (client.source server) 2 selection ⟨(), []⟩).outcome =
        .returned [⟨1, "x", "c d"⟩, ⟨2, "\"", "k"⟩] ∧
      (Operation.list.run (client.source server) 2 selection ⟨(), []⟩).state.log.map
          (·.request.line) = lines := by
  have hbuild : settings.build = .ok (selection, client) := rfl
  have haddress : settings.address.toList = "http://".toList ++ "h".toList := rfl
  have hproject : settings.repository.project ∉ [".", ".."] := by decide
  have hslug : settings.repository.slug ∉ [".", ".."] := by decide
  have hreturned : (Operation.list.run table.source 2 selection ()).outcome =
      .returned [⟨1, "x", "c d"⟩, ⟨2, "\"", "k"⟩] := rfl
  have hshort : ∀ x ∈ (Operation.list.run table.source 2 selection ()).log,
      (client.url x.request).toOption.all (·.text.length ≤ maxAddress) = true := by
    decide +kernel
  have hlength : ∀ x ∈ (Operation.list.run table.source 2 selection ()).log, ∀ u,
      client.url x.request = .ok u → u.text.length ≤ maxAddress := by
    intro x hx u hu
    have hall := hshort x hx
    rw [hu] at hall
    exact of_decide_eq_true hall
  obtain ⟨ho, -, sent, hlog, hlines⟩ := list_agrees hbuild isPlainHost_letter haddress hproject
    hslug hasNoDots serves hreturned hlength ⟨(), []⟩
  refine ⟨hbuild, isPlainHost_letter, haddress, hproject, hslug, hasNoDots, serves, hreturned,
    hlength, ho, ?_⟩
  rw [hlog, List.nil_append, hlines]
  rfl

/-! ### A project with a long name -/

theorem isRequestable_long {host : List Char} {parsed : Host} {repository : Repository}
    {start : Option UInt64} (h : maxAddress < (segment repository.project).length) :
    isRequestable (pageUrl host parsed ⟨.pullRequests repository, start⟩) = false := by
  have hpath : segment repository.project <:+: repositoryPath repository :=
    ⟨_, "/repos/".toList ++ segment repository.slug, (List.append_assoc ..).symm⟩
  have htarget : repositoryPath repository <:+: target host ⟨.pullRequests repository, start⟩ :=
    (List.prefix_append _ _).isInfix.trans ⟨_, _, rfl⟩
  have htext : target host ⟨.pullRequests repository, start⟩ <:+:
      (pageUrl host parsed ⟨.pullRequests repository, start⟩).text :=
    target_pageUrl host parsed ⟨.pullRequests repository, start⟩ ▸ ⟨_, _, rfl⟩
  have hlength := (hpath.trans (htarget.trans htext)).length_le
  have hlong : decide ((pageUrl host parsed ⟨.pullRequests repository, start⟩).text.length ≤
      maxAddress) = false :=
    decide_eq_false (Nat.not_le.mpr (Nat.lt_of_lt_of_le h hlength))
  unfold isRequestable isWritable
  rw [hlong, Bool.and_false, Bool.and_false]

/-- A table with an empty page of pull requests and nothing else. -/
def emptyTable : PageTable where
  pullRequests start := if start = none then some ⟨[], none⟩ else none
  builds _ _ := none
  commits _ _ := none

/-- The server that replies with an empty page of pull requests, whatever it is asked for. -/
def emptyServer (repository : Repository) : Server Unit := fun _ _ =>
  (pageReply (.pullRequests repository) ⟨[], none⟩, ())

theorem serves_emptyTable (host : List Char) (s : Selection) :
    Serves (emptyServer s.repository) host emptyTable s := by
  rintro state q ⟨r, start⟩ page hr hpage - - -
  cases r with
  | pullRequests _ =>
    cases hr
    have hstart : start = none ∧ Page.mk [] none = page := by
      simpa [PageTable.page?, emptyTable] using hpage
    obtain ⟨rfl, rfl⟩ := hstart
    exact carries_pageReply (List.forall_mem_nil _)
  | buildStatuses _ => cases hpage
  | commits _ _ => cases hpage

/-- Settings for everything in a repository on the host with the name of one letter. -/
def plainSettings (repository : Repository) : Settings :=
  ⟨repository, none, none, false, none, "http://h"⟩

/-- **The two sources differ** if the project has a name that makes addresses too long. -/
theorem list_long (repository : Repository)
    (h : maxAddress < (segment repository.project).length)
    (hdots : (Resource.pullRequests repository).HasNoDots) :
    ∃ s c, (plainSettings repository).build = .ok (s, c) ∧
      Serves (emptyServer repository) "h".toList emptyTable s ∧
      (Operation.list.run emptyTable.source 1 s ()).outcome = .returned [] ∧
      (Operation.list.run (c.source (emptyServer repository)) 1 s ⟨(), []⟩).outcome =
        .failed ⟨.pullRequests repository, .transport .notRequestable⟩ := by
  let s : Selection := ⟨repository, none, .noCheck, false⟩
  let c : Client := ⟨"http://h/rest", none⟩
  have hroot : root "http://h" = .ok "http://h/rest" := rfl
  have hbuild : (plainSettings repository).build = .ok (s, c) :=
    Settings.build_eq_ok_iff.mpr ⟨rfl, hroot, rfl⟩
  have hparsed : Host.parse "h".toList = .ok (.domain "h".toList) := rfl
  have hurl : c.url ⟨.pullRequests repository, none⟩ = _ :=
    url_eq isPlainHost_letter hparsed (by decide) hdots
  have hsource := source_unrequestable (emptyServer repository) ⟨(), []⟩ hurl (isRequestable_long h)
  have hask := Session.run_ask_error (congrArg Prod.fst hsource)
  refine ⟨s, c, hbuild, serves_emptyTable _ s, rfl, ?_⟩
  exact congrArg Run.outcome (Session.run_bind_failed (congrArg Run.outcome hask) _)

/-- A name of the given length. -/
def nameOf (length : Nat) : String := String.ofList (List.replicate length 'p')

theorem length_segment_nameOf (length : Nat) : (segment (nameOf length)).length = length := by
  have hkeep : ∀ c ∈ List.replicate length 'p', Percent.isUnreserved c = true := by
    intro c hc
    rw [List.eq_of_mem_replicate hc]
    rfl
  rw [segment, nameOf, String.toList_ofList, Percent.encode_of_forall hkeep,
    List.length_replicate]

theorem nameOf_not_dots {length : Nat} (h : 2 < length) : nameOf length ∉ [".", ".."] := by
  have hlength : (nameOf length).toList.length = length := by
    rw [nameOf, String.toList_ofList, List.length_replicate]
  simp only [List.mem_cons, List.not_mem_nil, or_false]
  rintro (hname | hname)
  · rw [hname] at hlength
    exact absurd hlength (Nat.ne_of_lt (Nat.lt_of_succ_lt h))
  · rw [hname] at hlength
    exact absurd hlength (Nat.ne_of_lt h)

theorem list_differs_longName :
    ∃ s c, (plainSettings ⟨nameOf 65535, "R"⟩).build = .ok (s, c) ∧
      IsPlainHost "h".toList ∧ nameOf 65535 ∉ [".", ".."] ∧ "R" ∉ [".", ".."] ∧
      emptyTable.HasNoDots ∧
      Serves (emptyServer ⟨nameOf 65535, "R"⟩) "h".toList emptyTable s ∧
      (Operation.list.run emptyTable.source 1 s ()).outcome = .returned [] ∧
      (Operation.list.run (c.source (emptyServer ⟨nameOf 65535, "R"⟩)) 1 s ⟨(), []⟩).outcome =
        .failed ⟨.pullRequests ⟨nameOf 65535, "R"⟩, .transport .notRequestable⟩ := by
  have hproject : nameOf 65535 ∉ [".", ".."] := nameOf_not_dots (by decide)
  have hlong : maxAddress < (segment (nameOf 65535)).length := by
    rw [length_segment_nameOf]
    decide
  obtain ⟨s, c, hbuild, hserves, hreturned, hfailed⟩ :=
    list_long ⟨nameOf 65535, "R"⟩ hlong ⟨hproject, by decide⟩
  exact ⟨s, c, hbuild, isPlainHost_letter, hproject, by decide, nofun, hserves, hreturned, hfailed⟩

end Rest

end OpenPulls
