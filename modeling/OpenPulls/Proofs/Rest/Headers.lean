import OpenPulls.Proofs.Rest.Interface
import OpenPulls.Proofs.Rest.Sent

/-!
# Headers

The HTTP request for a page says in its headers what is asked for and who asks. Who asks may come
from two sides: from the credentials that the client was given, and from the address of its server,
if that names a user.

* `Presents`: the request says who asks at most once, and with the credentials if there are any.
* `headers_sent`: in every run, the requests that are sent for pages ask for JSON (`AsksForJson`),
  and present the credentials exactly if not both sides say who asks. If both do, both are sent
  (`list_sends_both`).

A page is asked for below the root, so its address names the user that the root names
(`Url.parse_of_append`).
-/

namespace OpenPulls

open Http

/-- The values of a header, in order. -/
def Http.Request.values (q : Request) (name : String) : List String :=
  (q.headers.filter (·.1 == name)).map Prod.snd

namespace Rest

variable {ς : Type}

/-! ## Who asks -/

/-- The value of a header that says who asks: user name and password as one text in Base64. -/
def Credentials.value (given : Credentials) : String :=
  let text := given.username.toList ++ ':' :: given.password.toList
  "Basic " ++ String.ofList (Text.Base64.encode (Text.Utf8.encode text))

/-- The value of the header for the user that an address names, if it names one. -/
def namedBy? (u : Url) : Option String := (u.authority.bind userHeader?).map Prod.snd

/-- The value of the header for the user that the root names, if it names one. -/
def Client.user? (c : Client) : Option String := (Url.parse c.root.toList).toOption.bind namedBy?

/-- The request asks for JSON once, and turns off each of two checks against forged requests once. -/
structure AsksForJson (q : Request) : Prop where
  accept : q.values "accept" = ["application/json"]
  token : q.values "x-atlassian-token" = ["no-check"]
  requestedWith : q.values "x-requested-with" = ["XMLHttpRequest"]

/-- The request says who asks at most once, and with the credentials if there are any. -/
structure Presents (credentials : Option Credentials) (q : Request) : Prop where
  atMostOnce : (q.values "authorization").length ≤ 1
  given : ∀ given ∈ credentials, q.values "authorization" = [given.value]

theorem name_of_userHeader? {a : Url.Authority} {header : String × String}
    (h : userHeader? a = some header) : header.1 = "authorization" := by
  unfold userHeader? at h
  obtain ⟨user, -, h⟩ := Option.bind_eq_some_iff.mp h
  generalize (if a.password.isEmpty then none else plain? a.password) = password at h
  cases hnone : user.isEmpty && password.isNone with
  | true => simp [hnone] at h
  | false =>
    simp only [hnone, Bool.false_eq_true, if_false, Option.some.injEq] at h
    rw [← h]
    rfl

section Request

variable (credentials : Option Credentials) (u : Url)

/-- The headers that say who asks come from both sides, and the others from neither. -/
theorem headers_request :
    (request credentials u).headers =
      ((namedBy? u).toList ++ (credentials.map Credentials.value).toList).map
        ("authorization", ·) ++ commonHeaders := by
  have huser : (u.authority.bind userHeader?).toList =
      (namedBy? u).toList.map ("authorization", ·) := by
    unfold namedBy?
    cases h : u.authority.bind userHeader? with
    | none => rfl
    | some header =>
      obtain ⟨a, -, ha⟩ := Option.bind_eq_some_iff.mp h
      have hname := name_of_userHeader? ha
      simp [← hname]
  show (u.authority.bind userHeader?).toList ++ _ ++ commonHeaders = _
  rw [huser, List.map_append]
  cases credentials <;> rfl

theorem values_authorization :
    (request credentials u).values "authorization" =
      (namedBy? u).toList ++ (credentials.map Credentials.value).toList := by
  have hothers : commonHeaders.filter (·.1 == "authorization") = [] := by decide
  rw [Request.values, headers_request, List.filter_append, hothers, List.append_nil]
  generalize (namedBy? u).toList ++ _ = values
  induction values with
  | nil => rfl
  | cons value values ih => simpa using ih

theorem values_common {name : String} (hname : ("authorization" == name) = false) :
    (request credentials u).values name = (commonHeaders.filter (·.1 == name)).map Prod.snd := by
  rw [Request.values, headers_request, List.filter_append]
  generalize (namedBy? u).toList ++ _ = values
  have hnone : (values.map ("authorization", ·)).filter (·.1 == name) = [] := by
    simp [List.filter_map, Function.comp_def, hname]
  rw [hnone, List.nil_append]

theorem asksForJson_request : AsksForJson (request credentials u) where
  accept := values_common credentials u (by decide)
  token := values_common credentials u (by decide)
  requestedWith := values_common credentials u (by decide)

/-- **The credentials are presented unless the address names a user besides.** -/
theorem presents_iff :
    Presents credentials (request credentials u) ↔ namedBy? u = none ∨ credentials = none := by
  have hvalues := values_authorization credentials u
  constructor
  · intro h
    have hone := h.atMostOnce
    rw [hvalues] at hone
    cases hu : namedBy? u with
    | none => exact .inl rfl
    | some user =>
      cases credentials with
      | none => exact .inr rfl
      | some given => simp [hu] at hone
  · intro h
    constructor
    · rw [hvalues]
      rcases h with h | rfl
      · rw [h]
        cases credentials <;> simp
      · cases namedBy? u <;> simp
    · rintro given rfl
      rcases h with h | h
      · rw [hvalues, h]
        rfl
      · cases h

end Request

/-! ## Requests below the root -/

theorem getLast?_root {address text : String} (h : root address = .ok text) :
    text.toList.getLast? = some 't' := by
  obtain ⟨-, htext⟩ := root_eq_ok h
  rw [htext, ending]
  split
  next hsuffix =>
    obtain ⟨front, hfront⟩ := List.isSuffixOf_iff_suffix.mp hsuffix
    rw [List.append_nil, ← hfront, List.getLast?_append_of_ne_nil _ (by decide)]
    rfl
  next =>
    rw [List.getLast?_append_of_ne_nil _ (by decide)]
    rfl

/-- A requestable page names the user that the root names. -/
theorem namedBy?_url {address : String} {c : Client} (hroot : root address = .ok c.root)
    {r : PageRequest} {u : Url} (hu : c.url r = .ok u)
    (hscheme : u.scheme = "http".toList ∨ u.scheme = "https".toList) :
    namedBy? u = c.user? := by
  unfold Client.url at hu
  cases hv : Url.parse (c.root.toList ++ path r.resource) with
  | error fault =>
    rw [hv] at hu
    cases hu
  | ok v =>
    rw [hv] at hu
    obtain ⟨query, hadd⟩ := addQuery_eq v (pairs r)
    have hvu : { v with query := some query } = u := by
      rw [← hadd]
      exact Except.ok.inj hu
    subst hvu
    have hspecial : Url.isSpecial v.scheme = true := by
      rcases hscheme with h | h <;> rw [show v.scheme = _ from h] <;> rfl
    have hfile : v.scheme ≠ Url.fileScheme := by
      rcases hscheme with h | h <;> rw [show v.scheme = _ from h] <;> decide
    obtain ⟨more, hmore⟩ : ∃ more, path r.resource = '/' :: more := by
      rw [path_eq]
      cases r.resource <;> exact ⟨_, rfl⟩
    have hedge : ∀ d ∈ '/' :: more, Url.isEdge d = false := by
      rw [← hmore, path_eq]
      exact fun d hd => (Url.endsPath_of_mem_pathText (isInert_of_mem_segments _) d hd).2.1
    rw [hmore] at hv
    obtain ⟨w, hw, hauthority⟩ :=
      Url.parse_of_append (getLast?_root hroot) (by decide) hedge hv hspecial hfile
    unfold Client.user?
    rw [hw]
    show (v.authority.bind userHeader?).map Prod.snd = (w.authority.bind userHeader?).map Prod.snd
    rw [hauthority]

theorem request?_eq_some {address : String} {c : Client} (hroot : root address = .ok c.root)
    {r : PageRequest} {q : Request} (h : c.request? r = some q) :
    ∃ u, q = request c.credentials u ∧ namedBy? u = c.user? := by
  unfold Client.request? at h
  split at h
  · cases h
  next u hu =>
    simp only at h
    split at h
    next hrequestable =>
      cases h
      refine ⟨u, rfl, namedBy?_url hroot hu ?_⟩
      have hscheme : (request c.credentials u).url.scheme = u.scheme := by
        unfold request
        simp only
        split <;> rfl
      rw [isRequestable, hscheme, Bool.and_eq_true, Bool.or_eq_true, beq_iff_eq,
        beq_iff_eq] at hrequestable
      exact hrequestable.1
    next => cases h

/-! ## Runs -/

/-- What is sent for a page request begins with the request for the page, if that can be sent. It
asks for JSON, says who asks with the user of the root and then with the credentials, as far as
there are these, and presents the credentials unless there are both. -/
structure Opens (c : Client) (x : OpenPulls.Exchange) (sent : List Http.Exchange) : Prop where
  first : sent.head?.map Http.Exchange.request = c.request? x.request
  asksForJson : ∀ e ∈ sent.head?, AsksForJson e.request
  authorization : ∀ e ∈ sent.head?, e.request.values "authorization" =
    c.user?.toList ++ (c.credentials.map Credentials.value).toList
  presents : ∀ e ∈ sent.head?, (Presents c.credentials e.request ↔
    c.user? = none ∨ c.credentials = none)

theorem source_opens {address : String} {c : Client} (hroot : root address = .ok c.root)
    (server : Server ς) (w : Wire ς) (r : PageRequest) :
    ∃ sent, (c.source server w r).2.log = w.log ++ sent ∧
      Opens c ⟨r, (c.source server w r).1⟩ sent := by
  obtain ⟨sent, hlog, hfirst⟩ := source_head? c server w r
  have hrequest : ∀ e ∈ sent.head?, ∃ u, e.request = request c.credentials u ∧
      namedBy? u = c.user? := by
    intro e he
    rw [Option.mem_def.mp he] at hfirst
    exact request?_eq_some hroot hfirst.symm
  refine ⟨sent, hlog, hfirst, fun e he => ?_, fun e he => ?_, fun e he => ?_⟩
  · obtain ⟨u, hu, -⟩ := hrequest e he
    rw [hu]
    exact asksForJson_request c.credentials u
  · obtain ⟨u, hu, huser⟩ := hrequest e he
    rw [hu, values_authorization, huser]
  · obtain ⟨u, hu, huser⟩ := hrequest e he
    rw [hu, presents_iff, huser]

/-- **The credentials are presented with every request for a page**, unless the root of the
interface names a user, who is presented too. Whatever is done on a server, requests are sent for
one page request after the other, and the first one for each of them has these headers. -/
theorem headers_sent {address : String} {c : Client} (hroot : root address = .ok c.root)
    (server : Server ς) (o : Operation) (limit : Nat) (s : Selection) (w : Wire ς) :
    let run := o.run (c.source server) limit s w
    ∃ trails : List (List Http.Exchange), run.state.log = w.log ++ trails.flatten ∧
      List.Forall₂ (Opens c) run.log trails :=
  (Operation.replays_run o (c.source server) limit s w).trails (source_opens hroot server)

/-- A listing on a server that no connection reaches. -/
def unreachedList (c : Client) : Run (Wire Unit) (List ResolvedPullRequest) :=
  Operation.list.run (c.source unreachable) 1 ⟨⟨"PROJECT", "REPO"⟩, none, .noCheck, false⟩ ⟨(), []⟩

/-- Credentials beyond ASCII are presented. -/
theorem headers_sent_credentials :
    let c : Client := ⟨"https://h/rest", some ⟨"é", "p:w"⟩⟩
    root "https://h" = .ok c.root ∧ ∃ e, (unreachedList c).state.log = [e] ∧
      Presents c.credentials e.request ∧
      e.request.values "authorization" = ["Basic w6k6cDp3"] := by
  intro c
  have hroot : root "https://h" = .ok c.root := by decide +kernel
  have huser : c.user? = none := by decide +kernel
  have hlog : (unreachedList c).log.length = 1 := by decide +kernel
  have hsent : (unreachedList c).state.log.length = 1 := by decide +kernel
  obtain ⟨trails, hflat, htrails⟩ := headers_sent hroot (unreachable : Server Unit) .list 1
    ⟨⟨"PROJECT", "REPO"⟩, none, .noCheck, false⟩ ⟨(), []⟩
  obtain ⟨x, hx⟩ := List.length_eq_one_iff.mp hlog
  obtain ⟨e, he⟩ := List.length_eq_one_iff.mp hsent
  refine ⟨hroot, e, he, ?_⟩
  unfold unreachedList at hx he
  rw [hx] at htrails
  obtain ⟨sent, _, hopens, hnil, rfl⟩ := List.forall₂_cons_left_iff.mp htrails
  cases hnil
  rw [he, List.flatten_singleton, List.nil_append] at hflat
  have hhead : e ∈ sent.head? := by rw [← hflat]; rfl
  refine ⟨(hopens.presents e hhead).mpr (.inl huser), ?_⟩
  rw [hopens.authorization e hhead, huser]
  decide +kernel

/-- With a user in the address and credentials besides, both are sent. -/
theorem list_sends_both :
    let c : Client := ⟨"http://url:pw@h/rest", some ⟨"user", "password"⟩⟩
    root "http://url:pw@h" = .ok c.root ∧ ∃ e, (unreachedList c).state.log = [e] ∧
      e.request.values "authorization" = ["Basic dXJsOnB3", "Basic dXNlcjpwYXNzd29yZA=="] ∧
      ¬ Presents c.credentials e.request := by
  intro c
  have hroot : root "http://url:pw@h" = .ok c.root := by decide +kernel
  have hsent : (unreachedList c).state.log.map (·.request.values "authorization") =
    [["Basic dXJsOnB3", "Basic dXNlcjpwYXNzd29yZA=="]] := by decide +kernel
  obtain ⟨e, he, hvalues⟩ := List.map_eq_singleton_iff.mp hsent
  refine ⟨hroot, e, he, hvalues, fun h => ?_⟩
  have hone := h.atMostOnce
  rw [hvalues] at hone
  exact absurd hone (by decide)

end Rest

end OpenPulls
