import ChatRelay.Http.Message
import ChatRelay.Relay.Error
import ChatRelay.Reply

/-! Why a request fails, and what it is told.  The store's own words stay inside. -/

namespace ChatRelay.Http

/-- Why a request fails. -/
inductive Error where
  | unauthenticated
  | badRequest (text : String)
  | relay (cause : RelayError)
  deriving DecidableEq, Repr

namespace Error

def message : Error → String
  | unauthenticated => "unauthorized"
  | badRequest text => text
  | relay cause => cause.message

/-- The status that an error is answered with. -/
def status : Error → Nat
  | unauthenticated => 401
  | badRequest _ => 400
  | relay .channelMissing => 404
  | relay .forbidden => 403
  | relay (.storage _) | relay (.encoding _) => 500

/-- What the sender is told: of a failure inside, only that there was one. -/
def publicMessage (e : Error) : String :=
  if 500 ≤ e.status then "internal error" else e.message

def response (e : Error) : Response :=
  .json e.status (Refusal.mk e.publicMessage)

end Error

end ChatRelay.Http
