import OpenPulls.Proofs.Rest.Failures

/-!
# What is sent first

The HTTP requests for a page begin with one that follows from the page request and the client alone
(`Client.request?`), if it can be sent at all. The others are those that it is redirected to.
-/

namespace OpenPulls

open Http

namespace Rest

variable {ς : Type}

/-- The request for a page, if it can be sent. -/
def Client.request? (c : Client) (r : PageRequest) : Option Request :=
  match c.url r with
  | .error _ => none
  | .ok u =>
    let q := request c.credentials u
    if isRequestable q.url then some q else none

theorem Redirects.head? {q : Request} {left : Nat} {sent : List Http.Exchange}
    {final : Except TransportFault Response} (h : Redirects q left sent final) :
    sent.head?.map Http.Exchange.request = if isRequestable q.url then some q else none := by
  cases h with
  | unrequestable hq => simp [hq]
  | refused hq => simp [hq]
  | closed hq => simp [hq]
  | final hq => simp [hq]
  | tooMany hq => simp [hq]
  | followed hq => simp [hq]

theorem Fetched.head? {c : Client} {r : PageRequest} {sent : List Http.Exchange}
    {final : Except TransportFault Response} (h : Fetched c r sent final) :
    sent.head?.map Http.Exchange.request = c.request? r := by
  cases h with
  | noAddress hu => simp [Client.request?, hu]
  | sent hu hr =>
    rw [hr.head?, Client.request?, hu]

/-- What is sent for a page request begins with the request for the page. -/
theorem source_head? (c : Client) (server : Server ς) (w : Wire ς) (r : PageRequest) :
    ∃ sent, (c.source server w r).2.log = w.log ++ sent ∧
      sent.head?.map Http.Exchange.request = c.request? r := by
  obtain ⟨sent, hlog, final, hfinal, -⟩ := source_accounts c server w r
  exact ⟨sent, hlog, ((hfinal final).mpr rfl).head?⟩

/-- The first exchange for a page request. -/
def Client.SendsFirst (c : Client) (server : Server ς) (w : Wire ς) (r : PageRequest)
    (e : Http.Exchange) : Prop :=
  ∃ sent, (c.source server w r).2.log = w.log ++ e :: sent

theorem Client.SendsFirst.request {c : Client} {server : Server ς} {w : Wire ς} {r : PageRequest}
    {e : Http.Exchange} (h : c.SendsFirst server w r e) : c.request? r = some e.request := by
  obtain ⟨sent, he⟩ := h
  obtain ⟨sent', hlog, hhead⟩ := source_head? c server w r
  rw [he, List.append_cancel_left_eq] at hlog
  rw [← hhead, ← hlog]
  rfl

end Rest

end OpenPulls
