import ChatRelay.Proofs.Identity
import ChatRelay.Proofs.RoundTrip.Records
import ChatRelay.Proofs.Troubles

/-! How a request is refused.  Whatever goes wrong for a user who is known, the response says so in JSON, with
the status of what went wrong and nothing of the store's own words (`Response.Refuses`).  But a query string
that cannot be read is told in plain text: it is read before the handler begins, and nothing turns its error
into the handlers' own. -/

namespace ChatRelay.Http

open Operation (runOn)

variable {settings : Settings} {route : Route} {user : String} {req : Request} {arrival : Arrival}
  {r r' : Relay}

/-- The type of a response's body, if it is given. -/
def Response.contentType (w : Response) : Option String :=
  w.headers.lookup "content-type"

/-- The response is a refusal in JSON: its body is the text of the refusal, and is read as one. -/
structure Response.Refuses (w : Response) (status : Nat) (text : String) : Prop where
  status : w.status = status
  contentType : w.contentType = some "application/json"
  body : w.body = Wire.encode (Refusal.mk text)
  reads : Wire.decode? (Text.Utf8.bytes w.body) = some (Refusal.mk text)

/-- The method that a route is for. -/
def Route.method (route : Route) : String :=
  if route.isPost then "POST" else "GET"

theorem Error.refuses (e : Error) : e.response.Refuses e.status e.publicMessage where
  status := rfl
  contentType := rfl
  body := rfl
  reads := Wire.decode?_encode _

theorem contentType_sent (req : Request) (arrival : Arrival) (found : Response) :
    (sent req arrival found).contentType = found.contentType := by
  have hMore (w : Response) {name : String} (hName : ("content-type" == name) = false) (value : String) :
      (w.withHeader name value).contentType = w.contentType := by
    rw [Response.contentType, Response.withHeader, List.lookup_append, List.lookup_cons, hName]
    exact Option.or_none
  have hFound : (withoutBody req (withAllowed req found)).contentType = found.contentType := by
    unfold withoutBody withAllowed
    split
    all_goals
      split
      · split
        · rfl
        · exact hMore found rfl _
      · rfl
  unfold sent
  rw [hMore _ rfl, hMore _ rfl, hMore _ rfl, hMore _ rfl, hFound]

theorem Response.Refuses.sent {found : Response} {status : Nat} {text : String}
    (h : found.Refuses status text) (hKnown : (Route.ofPath? req.path).isSome) (hBody : req.method ≠ "HEAD")
    (arrival : Arrival) : (sent req arrival found).Refuses status text := by
  have hConveys := conveys_sent hKnown arrival found
  have hSame : (Http.sent req arrival found).body = found.body := by
    rw [hConveys.body, if_neg hBody]
  refine ⟨hConveys.status.trans h.status, (contentType_sent ..).trans h.contentType, hSame.trans h.body, ?_⟩
  rw [hSame]
  exact h.reads

/-- What a known user is told who makes a demand: an answer, or a refusal in JSON that says what was wrong with
the request, or why the relay refused it, or that something failed inside.  Only where the query string
cannot be read is it plain text. -/
def Told (user : String) (whole : Response) (r r' : Relay) : Demand → Prop
  | .unreadable e => r' = r ∧ whole.status = 400 ∧ whole.contentType = some "text/plain; charset=utf-8" ∧
      whole.body = e.message ∧ (Wire.decode? (Text.Utf8.bytes whole.body) : Option Refusal) = none
  | .refusal e => r' = r ∧ ∃ text, e = .badRequest text ∧ whole.Refuses 400 text
  | .move m => ∃ result, (m.operation user).MayEnd r result r' ∧
      match result with
      | .ok reply => whole.status = 200 ∧ whole.body = (putReply reply).body
      | .error .channelMissing => whole.Refuses 404 "channel not found"
      | .error .forbidden => whole.Refuses 403 "forbidden"
      | .error (.storage _) | .error (.encoding _) => whole.Refuses 500 "internal error"
  | .health | .live => False

end ChatRelay.Http
