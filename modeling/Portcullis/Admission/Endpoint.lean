import Portcullis.Admission.Decision
import Portcullis.Admission.Target

/-!
# The admission endpoint

Admission as the proxy's hook sees it: a request to a fixed path whose answer is a status code.

* Any status but 200 denies.
* A request that takes too long is given up: it is answered with 408, is neither counted nor
  reported, and asks nothing more.
* Every answer carries the id of its request, which is generated if the request has none.
-/

namespace Portcullis.Admission

open Portcullis.Telemetry

/-- A request to the endpoint. -/
structure HttpRequest where
  method : String
  target : Target
  headers : Headers
  deriving DecidableEq, Repr

/-- The id that an answer carries. -/
inductive RequestId where
  | echoed
  | generated
  deriving DecidableEq, Repr

/-- An answer of the endpoint. -/
structure Response where
  status : Nat
  body : String
  requestId : RequestId
  allow : Option String
  deriving DecidableEq, Repr

/-- The limits that an endpoint keeps. -/
structure Limits where
  lookup : Span
  request : Span
  deriving DecidableEq, Repr

def accessPath : String := "/njs/address_access"

def healthPath : String := "/health"

/-- The number of questions that are asked before a deadline, by how long each takes. -/
def askedBefore (deadline : Nat) (elapsed : Nat) : List Span → Nat
  | [] => 0
  | s :: rest =>
    if elapsed < deadline then 1 + askedBefore deadline (elapsed + s.nanos) rest else 0

/-- What a response says besides the request's id. -/
structure Answer where
  status : Nat
  body : String := ""
  allow : Option String := none

/-- The answer to a request for a known path: only reading methods are served, and one of them
gets no body. -/
def serveRead (method : String) (answer : Answer) : Answer :=
  if method = "HEAD" then { answer with body := "" } else answer

/-- What answering leaves behind: the questions asked, the counter queue and the journal. -/
structure Aftermath where
  asked : Nat
  queue : CounterQueue
  journal : Journal

/-- Answers an admission request in time, or gives it up. -/
def answerAccess (source : AccessSource) (limits : Limits) (now : UInt64) (headers : Headers)
    (q : CounterQueue) (j : Journal) : Option Decision × Aftermath :=
  let r := Request.ofHeaders headers
  let (f, spent) := find source limits.lookup r
  if limits.request.nanos ≤ Span.total spent then
    (none, ⟨askedBefore limits.request.nanos 0 spent, q, j⟩)
  else
    let (q, j) := settle f r now q j
    (some f.decision, ⟨spent.length, q, j⟩)

/-- Answers a request to the endpoint. -/
def respond (source : AccessSource) (limits : Limits) (now : UInt64) (r : HttpRequest)
    (q : CounterQueue) (j : Journal) : Response × Aftermath :=
  let requestId : RequestId :=
    if r.headers.any fun h => sameName h.1 "x-request-id" then .echoed else .generated
  let reply (a : Answer) : Response := ⟨a.status, a.body, requestId, a.allow⟩
  let still : Aftermath := ⟨0, q, j⟩
  let path := r.target.path
  if limits.request.nanos = 0 then (reply ⟨408, "", none⟩, still)
  else if path ≠ accessPath ∧ path ≠ healthPath then (reply ⟨404, "", none⟩, still)
  else if r.method ≠ "GET" ∧ r.method ≠ "HEAD" then
    (reply ⟨405, "", some "GET,HEAD"⟩, still)
  else if path = healthPath then (reply (serveRead r.method ⟨200, "ok", none⟩), still)
  else
    match answerAccess source limits now r.headers q j with
    | (none, after) => (reply ⟨408, "", none⟩, after)
    | (some d, after) => (reply ⟨if d.isAllowed then 200 else 401, "", none⟩, after)

end Portcullis.Admission
