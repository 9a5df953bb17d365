import MarkupQuery.Error
import MarkupQuery.Http.Uri

/-!
# Sites

A site is a server in memory: what it has at which path, and the requests it was asked so far. It
can refuse connections for a while, as a server does that is starting. Asking a site is a function
on it, so that what was asked and what is refused is part of every answer.
-/

namespace MarkupQuery.Http

/-- What a request asks for: a page, or only whether there is one. -/
inductive Method where
  | get
  | head
  deriving DecidableEq, Repr

def Method.name : Method → String
  | get => "GET"
  | head => "HEAD"

structure Route where
  status : Nat := 200
  body : List UInt8 := []
  /-- Where the page is instead, for the statuses that say so. -/
  location? : Option String := none
  /-- Whether the connection is closed without a response. -/
  closes : Bool := false
  /-- How many more connections are refused. -/
  refusals : Nat := 0
  deriving DecidableEq, Repr

structure Response where
  status : Nat
  body : List UInt8
  deriving DecidableEq, Repr

/-- Whether the response is what was asked for. -/
def Response.isSuccess (r : Response) : Bool := 200 ≤ r.status && r.status < 300

/-- What a site answers to one request. -/
inductive Reply where
  | response (r : Response)
  /-- The page is at another path. -/
  | elsewhere (target : String)
  deriving DecidableEq, Repr

def redirections : List Nat := [301, 302, 303, 307, 308]

def Route.reply (r : Route) : Reply :=
  match r.location? with
  | some location =>
    if redirections.contains r.status then .elsewhere (targetOf location.toList)
    else .response ⟨r.status, r.body⟩
  | none => .response ⟨r.status, r.body⟩

/-- A server in memory. -/
structure Site where
  origin : Origin
  /-- What the site has, by path and query. -/
  routes : List (String × Route)
  /-- The requests so far, in order. -/
  requests : List (Method × String)

namespace Site

def record (s : Site) (m : Method) (target : String) : Site :=
  { s with requests := s.requests ++ [(m, target)] }

def refuse (s : Site) (target : String) : Site :=
  { s with
    routes := s.routes.map fun (path, r) =>
      (path, if path = target then { r with refusals := r.refusals - 1 } else r) }

/-- Makes one request. A refused one leaves no trace but the count of refusals. -/
def ask (s : Site) (m : Method) (target : String) : Site × Except TransportFault Reply :=
  match s.routes.lookup target with
  | none => (s.record m target, .ok (.response ⟨404, []⟩))
  | some r =>
    if 0 < r.refusals then (s.refuse target, .error .refused)
    else if r.closes then (s.record m target, .error .broken)
    else (s.record m target, .ok r.reply)

/-- Makes requests until a response comes, following as many redirections as are allowed. -/
def follow (m : Method) : (allowed : Nat) → Site → String → Site × Except TransportFault Response
  | allowed, s, target =>
    match s.ask m target with
    | (s, .error fault) => (s, .error fault)
    | (s, .ok (.response r)) => (s, .ok r)
    | (s, .ok (.elsewhere target)) =>
      match allowed with
      | 0 => (s, .error .broken)
      | allowed + 1 => follow m allowed s target

def redirectionLimit : Nat := 10

/-- Asks for an address. Nobody else is there to answer than the site. -/
def send (s : Site) (m : Method) (uri : Uri) : Site × Except TransportFault Response :=
  if uri.origin = s.origin then follow m redirectionLimit s uri.target
  else (s, .error .refused)

end Site

end MarkupQuery.Http
