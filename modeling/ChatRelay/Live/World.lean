import ChatRelay.Live.Peer

/-! Sessions with their clients at the far end, in virtual time.  Nothing happens by itself: frames are
written when the world is settled, and heartbeats tick when time is let pass. -/

namespace ChatRelay.Live

/-- The relay with its clients. -/
structure World where
  relay : Relay
  acks : Bool
  /-- Milliseconds between two ticks of a heartbeat. -/
  interval : Nat
  /-- Milliseconds since the start. -/
  now : Nat := 0
  peers : List Peer := []

namespace World

def peer? (w : World) (name : String) : Option Peer :=
  w.peers.find? (·.name = name)

/-- Puts `p` in place of the client of its name. -/
def setPeer (w : World) (p : Peer) : World :=
  { w with peers := w.peers.map fun q => if q.name = p.name then p else q }

/-! ### Sessions -/

/-- Tells a client's session of an event, and the client of what comes of it. -/
def tell (w : World) (p : Peer) (e : SessionEvent) : Peer × World :=
  let ((session, out), relay) := p.session.serve w.acks e w.relay
  let p' := { p with session }
  let p' := match out with
    | some (.frame text) => p'.arrive (.frame text)
    | some .ping => p'.arrive .ping
    | none => p'
  let p' := if p.session.running ∧ ¬ session.running then p'.arrive .closed else p'
  (p', { w with relay })

/-- Writes the frames that wait in a client's queue, at most `count` of them, and learns of its end. -/
def flush : Nat → World → Peer → Peer × World
  | 0, w, p => (p, w)
  | count + 1, w, p =>
    let (p, w) := w.tell p .writable
    flush count w p

/-- How often a client's queue must be read until nothing is left of it. -/
def backlog (w : World) (p : Peer) : Nat :=
  match w.relay.registry.outbox? p.session.id with
  | some o => o.frames.length
  | none => 1

/-- Writes every frame that waits in a queue. -/
def settle (w : World) : World :=
  w.peers.foldl (fun w p =>
    if p.session.running then
      let (p, w) := flush (w.backlog p) w p
      w.setPeer p
    else w) w

/-! ### Clients -/

/-- A client sends something.  While the session runs, the transport answers a ping. -/
def send (w : World) (p : Peer) (what : Sent) : World :=
  if p.session.running then
    let (p, w) := w.tell { p with leaving := what.isClose } (.arrival what.toInbound)
    w.setPeer (match what with
      | .ping data => if p.session.running then p.arrive (.pong data) else p
      | _ => p)
  else w.setPeer p.breakOff

/-- A client is gone without a word. -/
def drop (w : World) (p : Peer) : World :=
  let (p, w) := w.tell { p with gone := true } (.arrival .ended)
  w.setPeer p

/-- A client stops reading. -/
def mute (w : World) (p : Peer) : World :=
  w.setPeer { p with muted := true }

def unmute (w : World) (p : Peer) : World :=
  w.setPeer p.unmute

/-- A new client, in place of any other of its name.  Its session may end as soon as it starts; a
heartbeat without an interval ends it, too. -/
def connect (w : World) (name : String) (id : ConnectionId) (muted : Bool) : World :=
  let w := match w.peer? name with
    | some p => w.drop p
    | none => w
  let (session, relay) := (Session.start id).run w.relay
  let p : Peer := { name, session, nextTick := w.now + w.interval, muted }
  let p := if session.running then p else p.arrive .closed
  let w := { w with relay, peers := w.peers.filter (·.name ≠ name) ++ [p] }
  if w.interval = 0 then
    let (p, w) := w.tell p .writeFailed
    w.setPeer p
  else w

/-! ### Time -/

/-- Ticks of a client's heartbeat, at most `count` of them, up to `w.now`. -/
def tick : Nat → World → Peer → Peer × World
  | 0, w, p => (p, w)
  | count + 1, w, p =>
    if p.session.running ∧ p.nextTick ≤ w.now then
      let (p, w) := w.tell p .tick
      tick count w { p with nextTick := p.nextTick + w.interval }
    else (p, w)

/-- Lets time pass. -/
def advance (w : World) (ms : Nat) : World :=
  let w := { w with now := w.now + ms }
  w.peers.foldl (fun w p =>
    let (p, w) := tick (w.now - p.nextTick + 1) w p
    w.setPeer p) w

/-! ### Reports -/

/-- What each client has seen since the last report. -/
def report (w : World) : List (String × List Sight) × World :=
  ((w.peers.filter (! ·.seen.isEmpty)).map fun p => (p.name, p.seen),
    { w with peers := w.peers.map fun p => { p with seen := [] } })

end World

end ChatRelay.Live
