/-! The paths that the application knows, and their methods. -/

namespace ChatRelay.Http

/-- The paths that the application knows. -/
inductive Route where
  | health
  | ws
  | history
  | send
  | channels
  | channelMembers
  | dm
  deriving DecidableEq, Repr

namespace Route

/-- The route of a path, which must match to the letter. -/
def ofPath? : String → Option Route
  | "/health" => some health
  | "/ws" => some ws
  | "/history" => some history
  | "/send" => some send
  | "/channels" => some channels
  | "/channel-members" => some channelMembers
  | "/dm" => some dm
  | _ => none

/-- The route takes a body. -/
def isPost : Route → Bool
  | send | dm => true
  | health | ws | history | channels | channelMembers => false

/-- The methods of a route, as a header lists them. -/
def allowed (r : Route) : String :=
  if r.isPost then "POST" else "GET,HEAD"

/-- The route answers a method.  Where it answers `GET`, it answers `HEAD` too. -/
def accepts (r : Route) (method : String) : Bool :=
  if r.isPost then method = "POST" else method = "GET" || method = "HEAD"

end Route

end ChatRelay.Http
