import ChatRelay.Connection

/-! The client at the far end of a session.  It reads what arrives and answers every ping, unless it is
muted: then what arrives waits.  A client that sends something after the relay has ended its session, if
only the answer to a ping, finds the transport broken, and sees nothing of what lies beyond. -/

namespace ChatRelay.Live

/-- What a client sends: a frame of text or bytes, a ping, an answer to a ping, or the end. -/
inductive Sent where
  | frame (raw : List UInt8) (fresh : Fresh)
  | ping (data : List UInt8)
  | pong (data : List UInt8)
  | close

/-- How many bytes a ping and its answer may carry. -/
def maxPingData : Nat := 125

/-- What the session makes of what a client sends.  A ping or an answer that carries too much breaks the
rules of the transport, which ends the session. -/
def Sent.toInbound : Sent → Inbound
  | frame raw fresh => .frame raw fresh
  | ping data => if data.length ≤ maxPingData then .ping else .ended
  | pong data => if data.length ≤ maxPingData then .pong else .ended
  | close => .ended

/-- The client asks for the end. -/
def Sent.isClose : Sent → Bool
  | close => true
  | frame .. | ping _ | pong _ => false

/-- What a client sees. -/
inductive Sight where
  | frame (text : Frame)
  | ping
  | pong (data : List UInt8)
  | closed
  deriving DecidableEq, Repr

/-- A client with its session.  `waiting` is what has arrived while the client is muted and `seen` what
it has seen since the last report, both in order; `leaving` says that the client asked for the end, and
`gone` that it knows of it. -/
structure Peer where
  name : String
  session : Session
  nextTick : Nat
  muted : Bool := false
  waiting : List Sight := []
  seen : List Sight := []
  leaving : Bool := false
  gone : Bool := false
  deriving DecidableEq

namespace Peer

/-- The client sees something; it answers a ping if the session still runs. -/
def see (p : Peer) (sight : Sight) : Peer :=
  match sight with
  | .ping =>
    { p with
      seen := p.seen ++ [sight]
      session.heartbeat :=
        if p.session.running then p.session.heartbeat.answer else p.session.heartbeat }
  | .closed => { p with seen := p.seen ++ [sight], gone := true }
  | .frame _ | .pong _ => { p with seen := p.seen ++ [sight] }

def arrive (p : Peer) (sight : Sight) : Peer :=
  if p.gone then p
  else if p.muted then { p with waiting := p.waiting ++ [sight] }
  else p.see sight

/-- The client finds the transport broken; what waits is lost. -/
def breakOff (p : Peer) : Peer :=
  { p with waiting := [] }.see .closed

/-- What a client that was muted sees of what waits: all of it, unless it finds the transport broken
when it answers the first ping. -/
def visible (p : Peer) : List Sight :=
  let before := p.waiting.takeWhile (· ≠ .ping)
  if p.session.running ∨ p.leaving ∨ before.length = p.waiting.length then p.waiting
  else before ++ [.ping, .closed]

def unmute (p : Peer) : Peer :=
  p.visible.foldl see { p with muted := false, waiting := [] }

end Peer

end ChatRelay.Live
