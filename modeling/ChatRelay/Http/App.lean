import ChatRelay.Http.Auth
import ChatRelay.Http.Handler

/-! The application that answers HTTP requests.  The health check is open to all; every other path, known
or not, needs a valid token first.  A browser that asks what it may request is told: everything. -/

namespace ChatRelay.Http

def protect (settings : Settings) (req : Request) (fresh : Fresh) : Activity Response := do
  match ← (authenticate settings.secret (fresh.wall.toInt / 1000).toNat req).run with
  | .error e => return e.response
  | .ok user =>
    match Route.ofPath? req.path with
    | none => return .empty 404
    | some route =>
      if route.accepts req.method then handle settings route user req fresh else return .empty 405

def dispatch (settings : Settings) (req : Request) (fresh : Fresh) : Activity Response :=
  if Route.ofPath? req.path = some .health then
    if Route.accepts .health req.method then health else return .empty 405
  else protect settings req fresh

/-- The id under which a request is noted: its own, if that is text and not empty, or else `own`. -/
def requestId (req : Request) (own : String) : String :=
  match req.header? "x-request-id" with
  | some value => if isHeaderText value ∧ value ≠ "" then value else own
  | none => own

/-- What every response depends on. -/
def vary : String := "origin, access-control-request-method, access-control-request-headers"

/-- The response with the methods of a known path, if the request's method is not among them. -/
def withAllowed (req : Request) (r : Response) : Response :=
  match Route.ofPath? req.path with
  | some route => if route.accepts req.method then r else r.withHeader "allow" route.allowed
  | none => r

/-- The response without its body, if the request asks only for the head of a known path. -/
def withoutBody (req : Request) (r : Response) : Response :=
  if req.method = "HEAD" ∧ (Route.ofPath? req.path).isSome then { r with body := "" } else r

/-- The answer to a browser that asks what it may request: everything. -/
def preflight (req : Request) : Response :=
  withAllowed req {
    status := 200
    headers := [("access-control-allow-origin", "*"), ("access-control-allow-methods", "*"),
      ("access-control-allow-headers", "*"), ("vary", vary)] }

def respond (settings : Settings) (req : Request) (arrival : Arrival) : Activity Response := do
  if req.method = "OPTIONS" then return preflight req
  else
    let r ← dispatch settings req arrival.toFresh
    return withoutBody req (withAllowed req r)
      |>.withHeader "x-request-id" (requestId req arrival.requestId)
      |>.withHeader "access-control-allow-origin" "*"
      |>.withHeader "access-control-expose-headers" "*"
      |>.withHeader "vary" vary

end ChatRelay.Http
