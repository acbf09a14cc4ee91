import ChatRelay.Relay.Post

/-! Live connections.  A connection is registered, then its frames are posted as they arrive, and in the
end it is unregistered.  A frame that is rejected ends nothing.  A heartbeat asks at each tick whether
the client has answered since the last one, and gives up at the second tick in a row without an answer;
the first tick takes an answer for granted. -/

namespace ChatRelay

/-! ### Frames from the client -/

/-- Posts a frame from a client.  If it is rejected and `acks` is on, the client is told why. -/
def handleFrame (acks : Bool) (id : ConnectionId) (raw : List UInt8) (fresh : Fresh) : Activity Unit := do
  match (Wire.decode? raw : Option SendRequest) with
  | none => if acks then sendError id .malformed none
  | some req =>
    match ← (post id.user req fresh).run with
    | .ok _ => return
    | .error e => if acks then sendError id e.code (some req.destination)

/-! ### Heartbeat -/

/-- How many ticks in a row a client may leave unanswered before it is given up. -/
def maxMissed : Nat := 2

/-- What a heartbeat knows: whether the client has answered since the last tick, and how many ticks in a
row it has not. -/
structure Heartbeat where
  answered : Bool := true
  missed : Nat := 0
  deriving DecidableEq, Repr

namespace Heartbeat

/-- The client has answered. -/
def answer (h : Heartbeat) : Heartbeat :=
  { h with answered := true }

/-- A tick: the client is asked again, or given up. -/
def tick? (h : Heartbeat) : Option Heartbeat :=
  if h.answered then some { answered := false, missed := 0 }
  else if h.missed + 1 < maxMissed then some { answered := false, missed := h.missed + 1 }
  else none

end Heartbeat

/-! ### Sessions -/

/-- What arrives from a client: a frame of text or bytes, a ping, an answer to a ping, or the end. -/
inductive Inbound where
  | frame (raw : List UInt8) (fresh : Fresh)
  | ping
  | pong
  | ended

/-- What happens to a session: something arrives, the next frame can be written, the heartbeat ticks, or
a write fails. -/
inductive SessionEvent where
  | arrival (what : Inbound)
  | writable
  | tick
  | writeFailed

/-- What a session writes. -/
inductive Outbound where
  | frame (text : Frame)
  | ping
  deriving DecidableEq, Repr

/-- A session: a live connection from its registration to its end. -/
structure Session where
  id : ConnectionId
  heartbeat : Heartbeat := {}
  running : Bool := true
  deriving DecidableEq

namespace Session

/-- Starts a session; from now on its queue takes frames.  Without a queue the session has ended. -/
def start (id : ConnectionId) : Activity Session := do
  let registered : Bool ← Activity.ofAction (.register id)
  return { id, running := registered }

def finish (s : Session) : Activity Session := do
  let _ ← Activity.ofAction (.unregister s.id)
  return { s with running := false }

/-- What a running session does on an event, and what it writes. -/
def react (acks : Bool) (s : Session) : SessionEvent → Activity (Session × Option Outbound)
  | .arrival (.frame raw fresh) => do
    handleFrame acks s.id raw fresh
    return (s, none)
  | .arrival .ping => return (s, none)
  | .arrival .pong => return ({ s with heartbeat := s.heartbeat.answer }, none)
  | .arrival .ended | .writeFailed => return (← s.finish, none)
  | .writable => do
    let reading : Registry.Reading ← Activity.ofAction (.take s.id)
    match reading with
    | .frame text => return (s, some (.frame text))
    | .nothing => return (s, none)
    | .ended => return (← s.finish, none)
  | .tick =>
    match s.heartbeat.tick? with
    | some heartbeat => return ({ s with heartbeat }, some .ping)
    | none => return (← s.finish, none)

/-- What a session does on an event; one that has ended does nothing. -/
def step (acks : Bool) (s : Session) (e : SessionEvent) : Activity (Session × Option Outbound) :=
  if s.running then s.react acks e else return (s, none)

/-- A session has become `s'`.  If it ended, its queue is dropped. -/
def release (s s' : Session) (r : Relay) : Relay :=
  if s.running ∧ ¬ s'.running then { r with registry := r.registry.dropReader s.id } else r

/-- Runs what a session does on an event. -/
def serve (acks : Bool) (s : Session) (e : SessionEvent) (r : Relay) : (Session × Option Outbound) × Relay :=
  let ((s', out), r) := (s.step acks e).run r
  ((s', out), s.release s' r)

end Session

end ChatRelay
