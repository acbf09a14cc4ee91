import ChatRelay.Http.Message

/-! Turning the connection of a request into a live one.  The request's headers are checked one after the
other, and the first that is wrong decides the answer. -/

namespace ChatRelay.Http

/-- `value` holds `part`, without regard to case. -/
def mentions (value part : String) : Bool :=
  let lower := value.toList.map Char.toLower
  (List.range (lower.length + 1)).any fun i => part.toList.isPrefixOf (lower.drop i)

/-- Turns the connection of a request into a live one. -/
def upgrade (user : String) (req : Request) : Response :=
  let lower (name : String) := (req.header? name).map fun v => String.ofList (v.toList.map Char.toLower)
  if req.method ≠ "GET" then .text 405 "Request method must be `GET`"
  else if ¬ (req.header? "connection").any (mentions · "upgrade") then
    .text 400 "Connection header did not include 'upgrade'"
  else if lower "upgrade" ≠ some "websocket" then
    .text 400 "`Upgrade` header did not include 'websocket'"
  else if (req.header? "sec-websocket-key").isNone then
    .text 400 "`Sec-WebSocket-Key` header missing"
  else if req.header? "sec-websocket-version" ≠ some "13" then
    .text 400 "`Sec-WebSocket-Version` header did not include '13'"
  else if ¬ req.upgradable then
    .text 426 "WebSocket request couldn't be upgraded since no upgrade state was present"
  else { status := 101, upgrade := some user }

end ChatRelay.Http
