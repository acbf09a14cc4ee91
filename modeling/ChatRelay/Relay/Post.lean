import ChatRelay.Relay.Access
import ChatRelay.Request

/-! Posting: a message is stored first and then offered to the live connections that may see it.  Once it
is stored, the post has succeeded, whatever becomes of the offer. -/

namespace ChatRelay

open Operation (call perform attempt)
open Registry (Audience)

/-! ### Fan-out -/

/-- What came of a frame's fan-out: how many connections took it, and how many were ended because they
were too slow. -/
structure Delivery where
  delivered : Nat
  shed : Nat
  deriving DecidableEq, Repr

/-- Ends the registrations of slow connections, and counts those that this ended. -/
def shedAll : List ConnectionId → Activity Nat
  | [] => return 0
  | id :: rest => do
    let removed : Bool ← Activity.ofAction (.unregister id)
    let others ← shedAll rest
    return (if removed then 1 else 0) + others

/-- Offers a frame to an audience, and then ends the connections that were too slow for it. -/
def deliver (audience : Audience) (frame : Frame) : Activity Delivery := do
  let report ← Activity.ofAction (.offer audience frame)
  let shed ← shedAll report.slow
  return ⟨report.delivered, shed⟩

/-- Whose connections a message of a channel goes to. -/
def audienceOf (channel : String) : Operation Audience := do
  let kind ← channelKind channel
  if kind.isShared then return .everyone
  else return .users (← call (.memberIds channel))

def Message.frame (m : Message) : Frame :=
  Wire.encode (ServerFrame.message m)

/-- Sends a message to the live connections that may see it. -/
def broadcast (m : Message) : Operation Delivery := do
  let audience ← audienceOf m.channel
  ExceptT.lift (deliver audience m.frame)

/-! ### Posting -/

/-- What a new message is given: its id, and the time by the wall clock. -/
structure Fresh where
  id : Uuid
  wall : Int64

/-- Stores a message of `sender` in a channel. -/
def append (sender channel : String) (req : SendRequest) (fresh : Fresh) : Operation Message := do
  let timestamp ← perform (.stamp fresh.wall)
  let m : Message := {
    id := fresh.id, channel, sender, timestamp, kind := req.kind
    content := req.content, nonce := req.nonce, signature := req.signature }
  let _ ← call (.insertMessage (.ofMessage m))
  return m

/-- Finds the channel that a request names, checks that `sender` may see it, stores the message and
sends it on. -/
def post (sender : String) (req : SendRequest) (fresh : Fresh) : Operation Message := do
  let channel ← resolve sender req.destination
  let _ ← authorize sender channel
  let m ← append sender channel req fresh
  let _ ← attempt (broadcast m)
  return m

/-- Tells one connection why its frame was rejected. -/
def sendError (id : ConnectionId) (code : ErrorCode) (channel : Option String) : Activity Unit := do
  let _ ← Activity.ofAction (.sendTo id (Wire.encode (ServerFrame.error ⟨⟨code, channel⟩⟩)))

end ChatRelay
