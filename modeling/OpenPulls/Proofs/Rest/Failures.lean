import OpenPulls.Proofs.Multiplicity
import OpenPulls.Proofs.Rest.Agreement

/-!
# Failures over the wire

What comes of a page request follows from what was sent for it and replied, and a failure names what
was asked for.

* `Redirects`: what is sent for one HTTP request, redirect after redirect, and what that ends with:
  a final response, or a fault without one. `Fetched` is the same for a page request.
* `Fails`, `Reads`: which cause of failure goes with what was obtained, and which page. The status
  code of the final response comes before its body, and a body that was cut off before what it says.
  What was obtained goes with one cause or with one page (`fails_or_reads`).
* `Accounts`: the answer to a page request is the failure or the page that goes with what was sent
  for it and replied.
* `Named`: what a log asks for is known from the settings, or from the pull requests on pages that
  were read before.

`list_failure_classified` puts these together: a run sends for one page request after the other
(`Replays.accounts`), and the failure of a listing is that of its last page request.
-/

namespace OpenPulls

open Http

namespace Rest

variable {ς : Type}

/-! ## Redirects -/

/-- The exchanges of a request that may be redirected `left` times, and what they end with. -/
inductive Redirects : Request → Nat → List Http.Exchange → Except TransportFault Response → Prop
  /-- Nothing is sent. -/
  | unrequestable {q : Request} {left : Nat} : isRequestable q.url = false →
      Redirects q left [] (.error .notRequestable)
  | refused {q : Request} {left : Nat} : isRequestable q.url = true →
      Redirects q left [⟨q, .refused⟩] (.error .interrupted)
  | closed {q : Request} {left : Nat} : isRequestable q.url = true →
      Redirects q left [⟨q, .closed⟩] (.error .interrupted)
  /-- The response is no redirect. -/
  | final {q : Request} {left : Nat} {response : Response} : isRequestable q.url = true →
      redirection? q response = none → Redirects q left [⟨q, .response response⟩] (.ok response)
  | tooMany {q : Request} {response : Response} {u : Url} : isRequestable q.url = true →
      redirection? q response = some u →
      Redirects q 0 [⟨q, .response response⟩] (.error .tooManyRedirects)
  | followed {q : Request} {left : Nat} {response : Response} {u : Url}
      {sent : List Http.Exchange} {final : Except TransportFault Response} :
      isRequestable q.url = true → redirection? q response = some u →
      Redirects (redirected q u) left sent final →
      Redirects q (left + 1) (⟨q, .response response⟩ :: sent) final

/-- What was sent and replied says what it ended with. -/
theorem Redirects.unique {q : Request} {left : Nat} {sent : List Http.Exchange}
    {final final' : Except TransportFault Response} (h : Redirects q left sent final)
    (h' : Redirects q left sent final') : final = final' := by
  induction h with
  | unrequestable _ =>
    cases h'
    rfl
  | refused _ =>
    cases h'
    rfl
  | closed _ =>
    cases h'
    rfl
  | final _ hr =>
    cases h' with
    | final => rfl
    | tooMany _ hr' => cases hr.symm.trans hr'
    | followed _ hr' _ => cases hr.symm.trans hr'
  | tooMany _ hr =>
    cases h' with
    | final _ hr' => cases hr.symm.trans hr'
    | tooMany => rfl
  | followed _ hr _ ih =>
    cases h' with
    | final _ hr' => cases hr.symm.trans hr'
    | followed _ hr' h' =>
      cases hr.symm.trans hr'
      exact ih h'

/-- The wire after a request. -/
def sentOn (server : Server ς) (w : Wire ς) (q : Request) : Wire ς :=
  ((Wire.send server q).run w).2

theorem run_bind {α β : Type} (t : StateM (Wire ς) α) (next : α → StateM (Wire ς) β)
    (w : Wire ς) : (t >>= next).run w = (next (t.run w).1).run (t.run w).2 := rfl

theorem run_send_bind {β : Type} (server : Server ς) (w : Wire ς) (q : Request)
    (next : Reply → StateM (Wire ς) β) :
    (Wire.send server q >>= next).run w =
      (next (server w.server q).1).run (sentOn server w q) := run_bind ..

/-- What was sent since the first wire, with the replies, ends with the result. -/
def EndsWith (q : Request) (left : Nat) (w : Wire ς)
    (result : Except TransportFault Response × Wire ς) : Prop :=
  ∃ sent, result.2.log = w.log ++ sent ∧ Redirects q left sent result.1

/-- An exchange ends with its first request, unless that is redirected. -/
theorem run_exchange_cases (server : Server ς) (q : Request) (left : Nat) (w : Wire ς) :
    EndsWith q left w ((exchange (Wire.send server) q left).run w) ∨
    ∃ response u, isRequestable q.url = true ∧ redirection? q response = some u ∧
      (sentOn server w q).log = w.log ++ [⟨q, .response response⟩] ∧
      (exchange (Wire.send server) q left).run w =
        match left with
        | 0 => (.error .tooManyRedirects, sentOn server w q)
        | left + 1 =>
          (exchange (Wire.send server) (redirected q u) left).run (sentOn server w q) := by
  have hlog : (sentOn server w q).log = w.log ++ [⟨q, (server w.server q).1⟩] := rfl
  rw [exchange.eq_def]
  cases h : isRequestable q.url with
  | false => exact .inl ⟨[], (List.append_nil _).symm, .unrequestable h⟩
  | true =>
    rw [if_neg (by decide), run_send_bind]
    cases hreply : (server w.server q).1 with
    | refused =>
      rw [hreply] at hlog
      exact .inl ⟨_, hlog, .refused h⟩
    | closed =>
      rw [hreply] at hlog
      exact .inl ⟨_, hlog, .closed h⟩
    | response response =>
      rw [hreply] at hlog
      cases hr : redirection? q response with
      | none =>
        simp only [hr]
        exact .inl ⟨_, hlog, .final h hr⟩
      | some u =>
        simp only [hr]
        exact .inr ⟨response, u, trivial, hr, hlog, by cases left <;> rfl⟩

/-- Every exchange ends, and with what its requests and their replies lead to. -/
theorem exchange_endsWith (server : Server ς) (q : Request) (left : Nat) (w : Wire ς) :
    EndsWith q left w ((exchange (Wire.send server) q left).run w) := by
  induction left generalizing q w with
  | zero =>
    rcases run_exchange_cases server q 0 w with h | ⟨response, u, hq, hr, hlog, hrun⟩
    · exact h
    · rw [hrun]
      exact ⟨_, hlog, .tooMany hq hr⟩
  | succ left ih =>
    rcases run_exchange_cases server q (left + 1) w with h | ⟨response, u, hq, hr, hlog, hrun⟩
    · exact h
    · obtain ⟨sent, hsent, hfollowed⟩ := ih (redirected q u) (sentOn server w q)
      rw [hrun]
      refine ⟨⟨q, .response response⟩ :: sent, ?_, .followed hq hr hfollowed⟩
      rw [hsent, hlog, List.append_assoc, List.singleton_append]

/-! ## Page requests -/

/-- The exchanges for a page request, and what they end with. -/
inductive Fetched (c : Client) (r : PageRequest) :
    List Http.Exchange → Except TransportFault Response → Prop
  | noAddress {fault : Url.Fault} : c.url r = .error fault →
      Fetched c r [] (.error .notRequestable)
  | sent {u : Url} {sent : List Http.Exchange} {final : Except TransportFault Response} :
      c.url r = .ok u → Redirects (request c.credentials u) maxRedirects sent final →
      Fetched c r sent final

theorem Fetched.unique {c : Client} {r : PageRequest} {sent : List Http.Exchange}
    {final final' : Except TransportFault Response} (h : Fetched c r sent final)
    (h' : Fetched c r sent final') : final = final' := by
  cases h with
  | noAddress hu =>
    cases h' with
    | noAddress _ => rfl
    | sent hu' _ => cases hu.symm.trans hu'
  | sent hu hr =>
    cases h' with
    | noAddress hu' => cases hu.symm.trans hu'
    | sent hu' hr' =>
      cases hu.symm.trans hu'
      exact hr.unique hr'

/-- The status code of the response is one of success. -/
def Succeeds (response : Response) : Prop := 200 ≤ response.status ∧ response.status ≤ 299

instance (response : Response) : Decidable (Succeeds response) :=
  inferInstanceAs (Decidable (_ ∧ _))

theorem isSuccess_iff (response : Response) :
    isSuccess response.status = true ↔ Succeeds response := by
  rw [isSuccess, Bool.and_eq_true, decide_eq_true_eq, decide_eq_true_eq, Succeeds,
    Nat.lt_succ_iff]

section Table

variable (r : Resource)

/-- The causes of failure, by what was obtained. -/
inductive Fails : Except TransportFault Response → Cause → Prop
  /-- There is no final response. -/
  | noResponse (fault : TransportFault) : Fails (.error fault) (.transport fault)
  /-- The status code is not one of success, whatever the body. -/
  | status {response : Response} : ¬ Succeeds response →
      Fails (.ok response) (.status response.status)
  | cutOff {response : Response} : Succeeds response → response.complete = false →
      Fails (.ok response) (.transport .interrupted)
  | noEnvelope {response : Response} {e : Json.Error} : Succeeds response →
      response.complete = true →
      Json.decode (envelope (item r)) (Text.Utf8.decode response.body) = .error e →
      Fails (.ok response) (.malformed e)
  /-- The envelope says that there is a next page, and not where. -/
  | noCursor {response : Response} {items : List r.Item} : Succeeds response →
      response.complete = true →
      Json.decode (envelope (item r)) (Text.Utf8.decode response.body) =
        .ok (false, items, none, ()) →
      Fails (.ok response) (.malformed (.mismatch .missingCursor))

/-- The page that is read, by what was obtained. -/
inductive Reads : Except TransportFault Response → Page r.Item → Prop
  | last {response : Response} {items : List r.Item} {next : Option UInt64} : Succeeds response →
      response.complete = true →
      Json.decode (envelope (item r)) (Text.Utf8.decode response.body) =
        .ok (true, items, next, ()) →
      Reads (.ok response) ⟨items, none⟩
  | more {response : Response} {items : List r.Item} {next : UInt64} : Succeeds response →
      response.complete = true →
      Json.decode (envelope (item r)) (Text.Utf8.decode response.body) =
        .ok (false, items, some next, ()) →
      Reads (.ok response) ⟨items, some next⟩

/-- What the client makes of what was obtained. -/
def obtained : Except TransportFault Response → Except Cause (Page r.Item)
  | .error fault => .error (.transport fault)
  | .ok response => answer r response

variable {r} {final : Except TransportFault Response}

theorem Fails.obtained_eq {cause : Cause} (h : Fails r final cause) :
    obtained r final = .error cause := by
  cases h with
  | noResponse fault => rfl
  | status hs =>
    rw [← isSuccess_iff, Bool.not_eq_true] at hs
    simp [obtained, answer, hs]
  | cutOff hs hc =>
    rw [← isSuccess_iff] at hs
    simp [obtained, answer, hs, hc]
  | noEnvelope hs hc hd =>
    rw [← isSuccess_iff] at hs
    simp only [obtained, answer, hs, hc, page, hd]
    rfl
  | noCursor hs hc hd =>
    rw [← isSuccess_iff] at hs
    simp only [obtained, answer, hs, hc, page, hd]
    rfl

theorem Reads.obtained_eq {page : Page r.Item} (h : Reads r final page) :
    obtained r final = .ok page := by
  cases h with
  | last hs hc hd =>
    rw [← isSuccess_iff] at hs
    simp only [obtained, answer, hs, hc, Rest.page, hd]
    rfl
  | more hs hc hd =>
    rw [← isSuccess_iff] at hs
    simp only [obtained, answer, hs, hc, Rest.page, hd]
    rfl

/-- Whatever was obtained, the table says what is made of it. -/
theorem fails_or_reads (r : Resource) (final : Except TransportFault Response) :
    (∃ cause, Fails r final cause) ∨ ∃ page, Reads r final page := by
  cases final with
  | error fault => exact .inl ⟨_, .noResponse fault⟩
  | ok response =>
    by_cases hs : Succeeds response
    · cases hc : response.complete with
      | false => exact .inl ⟨_, .cutOff hs hc⟩
      | true =>
        cases hd : Json.decode (envelope (item r)) (Text.Utf8.decode response.body) with
        | error e => exact .inl ⟨_, .noEnvelope hs hc hd⟩
        | ok values =>
          obtain ⟨isLast, items, next, ⟨⟩⟩ := values
          cases isLast with
          | true => exact .inr ⟨_, .last hs hc hd⟩
          | false =>
            cases next with
            | none => exact .inl ⟨_, .noCursor hs hc hd⟩
            | some next => exact .inr ⟨_, .more hs hc hd⟩
    · exact .inl ⟨_, .status hs⟩

theorem fails_iff {cause : Cause} : Fails r final cause ↔ obtained r final = .error cause := by
  refine ⟨Fails.obtained_eq, fun h => ?_⟩
  rcases fails_or_reads r final with ⟨cause', hf⟩ | ⟨page, hr⟩
  · cases hf.obtained_eq.symm.trans h
    exact hf
  · cases hr.obtained_eq.symm.trans h

theorem reads_iff {page : Page r.Item} : Reads r final page ↔ obtained r final = .ok page := by
  refine ⟨Reads.obtained_eq, fun h => ?_⟩
  rcases fails_or_reads r final with ⟨cause, hf⟩ | ⟨page', hr⟩
  · cases hf.obtained_eq.symm.trans h
  · cases hr.obtained_eq.symm.trans h
    exact hr

end Table

/-- The answer is what goes with the exchanges: a failure that names the resource, or a page. The
exchanges leave no doubt about what they end with. -/
def Accounts (c : Client) (x : OpenPulls.Exchange) (sent : List Http.Exchange) : Prop :=
  ∃ final, (∀ e, Fetched c x.request sent e ↔ e = final) ∧
    (∀ f, x.answer = .error f ↔
      f.resource = x.request.resource ∧ Fails x.request.resource final f.cause) ∧
    ∀ page, x.answer = .ok page ↔ Reads x.request.resource final page

theorem fetch_obtains (c : Client) (server : Server ς) (w : Wire ς) (r : PageRequest) :
    ∃ sent final w', (c.fetch (Wire.send server) r).run w = (obtained r.resource final, w') ∧
      w'.log = w.log ++ sent ∧ Fetched c r sent final := by
  unfold Client.fetch
  cases hu : c.url r with
  | error fault => exact ⟨[], _, w, rfl, (List.append_nil _).symm, .noAddress hu⟩
  | ok u =>
    obtain ⟨sent, hlog, hr⟩ := exchange_endsWith server (request c.credentials u) maxRedirects w
    refine ⟨sent, _, _, ?_, hlog, .sent hu hr⟩
    rw [run_bind]
    cases ((exchange (Wire.send server) (request c.credentials u) maxRedirects).run w).1 with
    | error fault => rfl
    | ok response => rfl

/-- One page request is accounted for by what is sent for it. -/
theorem source_accounts (c : Client) (server : Server ς) (w : Wire ς) (r : PageRequest) :
    ∃ sent, (c.source server w r).2.log = w.log ++ sent ∧
      Accounts c ⟨r, (c.source server w r).1⟩ sent := by
  obtain ⟨sent, final, w', hfetch, hlog, hf⟩ := fetch_obtains c server w r
  have hsource : c.source server w r =
      ((obtained r.resource final).mapError fun cause => ⟨r.resource, cause⟩, w') := by
    unfold Client.source
    simp only [hfetch]
  rw [hsource]
  refine ⟨sent, hlog, final, fun e => ⟨fun he => he.unique hf, fun he => he ▸ hf⟩, fun f => ?_,
    fun page => ?_⟩
  · rw [fails_iff]
    cases obtained r.resource final with
    | error cause =>
      obtain ⟨resource, cause'⟩ := f
      simp [Except.mapError, eq_comm]
    | ok page => simp [Except.mapError]
  · rw [reads_iff]
    cases obtained r.resource final with
    | error cause => simp [Except.mapError]
    | ok page' => simp [Except.mapError]

end Rest

/-! ## Runs -/

/-- What is sent in a run is what is sent for one page request after the other. -/
theorem Replays.trails {ς : Type} {c : Rest.Client} {server : Http.Server ς}
    {P : Exchange → List Http.Exchange → Prop}
    (hP : ∀ w r, ∃ sent, (c.source server w r).2.log = w.log ++ sent ∧
      P ⟨r, (c.source server w r).1⟩ sent)
    {w last : Http.Wire ς} {log : List Exchange} (h : Replays (c.source server) w log last) :
    ∃ trails : List (List Http.Exchange), last.log = w.log ++ trails.flatten ∧
      List.Forall₂ P log trails := by
  induction h with
  | nil => exact ⟨[], by simp, .nil⟩
  | @cons w last r log _ ih =>
    obtain ⟨sent, hlog, hsent⟩ := hP w r
    obtain ⟨trails, hlog', htrails⟩ := ih
    refine ⟨sent :: trails, ?_, .cons hsent htrails⟩
    rw [hlog', hlog, List.flatten_cons, List.append_assoc]

section Named

variable {s : Selection} {known : List Candidate} {log : List Exchange}

/-- A listing that knows some pull requests may ask for the resource. -/
def Resource.NamedBy (s : Selection) (known : List Candidate) : Resource → Prop
  | .pullRequests repository => repository = s.repository
  | .buildStatuses _ => True
  | .commits repository number =>
    repository = s.repository ∧ ∃ c ∈ known, c.number = number

/-- Every request of the log is for a resource that is known before it: from the start, or from the
pages that were read. -/
def Named (s : Selection) : List Candidate → List Exchange → Prop
  | _, [] => True
  | known, x :: log => x.request.resource.NamedBy s known ∧ Named s (known ++ x.candidates) log

theorem named_append {log' : List Exchange} :
    Named s known (log ++ log') ↔ Named s known log ∧ Named s (known ++ candidatesIn log) log' := by
  induction log generalizing known with
  | nil => simp [Named]
  | cons x log ih => simp [Named, ih, and_assoc]

theorem named_of_servesDecision {c : Candidate} (hc : c ∈ known)
    (h : ∀ x ∈ log, x.request.resource.ServesDecision s c) : Named s known log := by
  induction log generalizing known with
  | nil => trivial
  | cons x log ih =>
    obtain ⟨hx, hlog⟩ := List.forall_mem_cons.mp h
    refine ⟨?_, ih (List.mem_append_left _ hc) hlog⟩
    cases hr : x.request.resource with
    | pullRequests _ =>
      rw [hr] at hx
      exact hx.elim
    | buildStatuses _ => trivial
    | commits repository number =>
      rw [hr] at hx
      exact ⟨hx.1, c, hc, hx.2.symm⟩

theorem Gathered.named {cs : List Candidate} {ps : List ResolvedPullRequest}
    (h : Gathered (DecidedEntries s) cs log ps) (hcs : ∀ c ∈ cs, c ∈ known) :
    Named s known log := by
  induction h generalizing known with
  | nil => trivial
  | @cons c rest log log' here later hv _ ih =>
    obtain ⟨hc, hrest⟩ := List.forall_mem_cons.mp hcs
    obtain ⟨result, hd, -⟩ := hv
    refine named_append.mpr ⟨named_of_servesDecision hc hd.request, ih fun c' hc' => ?_⟩
    exact List.mem_append_left _ (hrest c' hc')

theorem Listed.named {ps : List ResolvedPullRequest} (h : Listed s log ps) :
    Named s known log := by
  rw [Listed] at h
  generalize (none : Option UInt64) = start at h
  induction h generalizing known with
  | @last start page log here _ hg =>
    exact ⟨rfl, hg.named fun c hc => List.mem_append_right _ hc⟩
  | @more start page next log log' here later _ hg _ ih =>
    exact ⟨rfl, named_append.mpr ⟨hg.named fun c hc => List.mem_append_right _ hc, ih⟩⟩

end Named

end OpenPulls
