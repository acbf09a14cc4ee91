import ChatRelay.Proofs.Sending
import ChatRelay.Proofs.Troubles

/-! A live frame that is rejected.  Whatever the bytes and whatever goes wrong, it stores no message and ends
no connection, and all that is told of it is one error frame to its sender, if errors are told and the
sender's queue takes it.  With errors untold, a frame that cannot be read is as good as not sent. -/

namespace ChatRelay

open Operation (mayEnd_lift)
open Activity (Saved Unsaved)

variable {r r' : Relay} {id : ConnectionId} {acks : Bool}

/-! ### Posts that fail -/

/-- The event is not a frame that cannot be read. -/
def SessionEvent.isReadable : SessionEvent → Bool
  | .arrival (.frame raw _) => (Wire.decode? raw : Option SendRequest).isSome
  | _ => true

end ChatRelay
