import ChatRelay.Http.App
import ChatRelay.Proofs.Access

/-! How a request goes through the application.  First it is found who sends it; then the handler of its
path answers, or it is told that the path does not take its method; and the answer is sent with the headers
that every response has. -/

namespace ChatRelay.Http

open Operation (runOn)

variable {r : Relay} {req : Request}

/-! ### Who sends a request -/

theorem authenticate_uses (secret : String) (now : Nat) (req : Request) :
    Activity.Uses Action.IsRead (authenticate secret now req).run := by
  unfold authenticate
  split
  · exact .pure _
  · refine .bind (userIdFor_uses _).run fun result => ?_
    split <;> exact .pure _

theorem authenticate_run (secret : String) (now : Nat) (req : Request) (r : Relay) :
    (Activity.run (authenticate secret now req).run r).2 = r :=
  Activity.run_of_isRead (authenticate_uses secret now req) r

theorem authenticate_run_of_none {secret : String} {now : Nat}
    (h : (bearerToken? req >>= Token.verify? secret now) = none) (r : Relay) :
    Activity.run (authenticate secret now req).run r = (.error .unauthenticated, r) := by
  unfold authenticate
  rw [h]
  rfl

theorem userIdFor_runOn (username : String) (r : Relay) :
    runOn (userIdFor username) r =
      (if r.store.poisoned then .error (.storage .poisoned)
        else .ok (r.store.database.userIdOf? username), r) := by
  unfold userIdFor
  by_cases hPoisoned : r.store.poisoned
  · rw [if_pos hPoisoned]
    exact Operation.runOn_call_of_poisoned _ hPoisoned
  · rw [if_neg hPoisoned]
    exact Operation.runOn_call_of_apply (Bool.eq_false_iff.2 hPoisoned) rfl

/-- Of the claims of a valid token, the name is looked up in the directory. -/
theorem authenticate_run_of_some {secret : String} {now : Nat} {claims : Claims}
    (h : (bearerToken? req >>= Token.verify? secret now) = some claims) (r : Relay) :
    Activity.run (authenticate secret now req).run r =
      (match (runOn (userIdFor claims.username) r).1 with
        | .ok (some user) => .ok user
        | .ok none => .error .unauthenticated
        | .error cause => .error (.relay cause), r) := by
  have hSame : (runOn (userIdFor claims.username) r).2 = r := Activity.run_of_isRead (userIdFor_uses _).run r
  unfold authenticate
  rw [h]
  dsimp only
  rw [ExceptT.run_mk, Activity.run_bind]
  show Activity.run _ (runOn (userIdFor claims.username) r).2 = _
  rw [hSame]
  show Activity.run (match (runOn (userIdFor claims.username) r).1 with
    | .ok (some user) => _ | .ok none => _ | .error cause => _) r = _
  rcases (runOn (userIdFor claims.username) r).1 with cause | _ | user
  · rfl
  · rfl
  · rfl

/-! ### From a request to its handler -/

theorem answer_run {α : Type} (op : Operation α) (respond : α → Response) (r : Relay) :
    (answer op respond).run r =
      match runOn op r with
      | (.ok a, r') => (respond a, r')
      | (.error e, r') => ((Error.relay e).response, r') := by
  unfold answer
  rw [Activity.run_bind]
  rcases hOp : runOn op r with ⟨result, r'⟩
  have hRun : Activity.run op.run r = (result, r') := hOp
  rw [hRun]
  cases result <;> rfl

section Dispatch

variable {settings : Settings} {route : Route} {fresh : Fresh}

theorem dispatch_of_protected (hRoute : Route.ofPath? req.path = some route) (hProtected : route ≠ .health) :
    dispatch settings req fresh = protect settings req fresh := by
  refine if_neg ?_
  rw [hRoute]
  intro hHealth
  exact hProtected (Option.some.inj hHealth)

theorem protect_run_of_error {e : Error}
    (h : Activity.run (authenticate settings.secret (fresh.wall.toInt / 1000).toNat req).run r =
      (.error e, r)) :
    (protect settings req fresh).run r = (e.response, r) := by
  unfold protect
  rw [Activity.run_bind, h]
  rfl

theorem protect_run_of_ok (hRoute : Route.ofPath? req.path = some route) {user : String}
    (h : Activity.run (authenticate settings.secret (fresh.wall.toInt / 1000).toNat req).run r =
      (.ok user, r)) :
    (protect settings req fresh).run r =
      if route.accepts req.method then (handle settings route user req fresh).run r
      else (.empty 405, r) := by
  unfold protect
  rw [Activity.run_bind, h]
  dsimp only
  rw [hRoute]
  dsimp only
  split <;> rfl

end Dispatch

/-! ### Sending the answer -/

/-- A response as it is sent: that which was found, but for its headers, and without its body if the request
asks only for the head. -/
structure Response.Conveys (req : Request) (sent found : Response) : Prop where
  status : sent.status = found.status
  upgrade : sent.upgrade = found.upgrade
  body : sent.body = if req.method = "HEAD" then "" else found.body

theorem conveys_withoutBody (hKnown : (Route.ofPath? req.path).isSome) (found : Response) :
    (withoutBody req found).Conveys req found := by
  unfold withoutBody
  by_cases hHead : req.method = "HEAD"
  · rw [if_pos ⟨hHead, hKnown⟩]
    exact ⟨rfl, rfl, (if_pos hHead).symm⟩
  · rw [if_neg fun h => hHead h.1]
    exact ⟨rfl, rfl, (if_neg hHead).symm⟩

theorem withAllowed_same (req : Request) (found : Response) :
    (withAllowed req found).status = found.status ∧ (withAllowed req found).upgrade = found.upgrade ∧
      (withAllowed req found).body = found.body := by
  unfold withAllowed
  split
  · split <;> exact ⟨rfl, rfl, rfl⟩
  · exact ⟨rfl, rfl, rfl⟩

/-- A response as it is sent. -/
def sent (req : Request) (arrival : Arrival) (found : Response) : Response :=
  withoutBody req (withAllowed req found)
    |>.withHeader "x-request-id" (requestId req arrival.requestId)
    |>.withHeader "access-control-allow-origin" "*"
    |>.withHeader "access-control-expose-headers" "*"
    |>.withHeader "vary" vary

theorem conveys_sent (hKnown : (Route.ofPath? req.path).isSome) (arrival : Arrival) (found : Response) :
    (sent req arrival found).Conveys req found := by
  obtain ⟨hStatus, hUpgrade, hBody⟩ := conveys_withoutBody hKnown (withAllowed req found)
  obtain ⟨hSameStatus, hSameUpgrade, hSameBody⟩ := withAllowed_same req found
  rw [hSameStatus] at hStatus
  rw [hSameUpgrade] at hUpgrade
  rw [hSameBody] at hBody
  exact ⟨hStatus, hUpgrade, hBody⟩

theorem respond_eq (settings : Settings) (hMethod : req.method ≠ "OPTIONS") (arrival : Arrival) :
    respond settings req arrival =
      dispatch settings req arrival.toFresh >>= fun found => pure (sent req arrival found) :=
  if_neg hMethod

theorem respond_run (settings : Settings) (hMethod : req.method ≠ "OPTIONS")
    (hKnown : (Route.ofPath? req.path).isSome) (arrival : Arrival) (r : Relay) :
    let found := (dispatch settings req arrival.toFresh).run r
    let whole := (respond settings req arrival).run r
    whole.1.Conveys req found.1 ∧ whole.2 = found.2 := by
  intro found whole
  have hWhole : whole = (sent req arrival found.1, found.2) := by
    show (respond settings req arrival).run r = _
    rw [respond_eq settings hMethod, Activity.run_bind]
    rfl
  rw [hWhole]
  exact ⟨conveys_sent hKnown arrival found.1, rfl⟩

end ChatRelay.Http
