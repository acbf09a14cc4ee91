import ChatRelay.Registry.Outbox

/-! The live connections of each user.  Offering a frame changes no registration; it reports the connections
that were too slow, whose registrations are then ended.  A queue takes frames as long as its connection is
registered.  Whoever reads it after that is told first that it has ended; a reader that goes on gets the
frames that were left in it, and then the end again. -/

namespace ChatRelay

/-- The registered connections by user, how many frames a queue holds, and what is left of the queues that
have ended and still have a reader. -/
structure Registry where
  capacity : Nat
  clients : List (String × List Client) := []
  ended : List (ConnectionId × Remnant) := []

namespace Registry

/-- A registry whose queues hold `capacity` frames, and at least one. -/
def ofCapacity (capacity : Nat) : Registry :=
  { capacity := max 1 capacity }

/-! ### Looking up -/

def clientsOf (r : Registry) (user : String) : List Client :=
  (r.clients.lookup user).getD []

def outbox? (r : Registry) (id : ConnectionId) : Option Outbox :=
  ((r.clientsOf id.user).find? (·.serial = id.serial)).map (·.outbox)

def isRegistered (r : Registry) (id : ConnectionId) : Bool :=
  (r.outbox? id).isSome

/-- What is left of the queue of a connection whose registration has ended. -/
def remnant? (r : Registry) (id : ConnectionId) : Option Remnant :=
  r.ended.lookup id

/-- How many connections a user has. -/
def connectionsOf (r : Registry) (user : String) : Nat :=
  (r.clientsOf user).length

/-- How many users have a connection. -/
def onlineUsers (r : Registry) : Nat :=
  r.clients.length

/-! ### Registration -/

/-- Puts `clients` in place of a user's connections; a user without any is not listed. -/
def setClients (r : Registry) (user : String) (clients : List Client) : Registry :=
  if clients.isEmpty then { r with clients := r.clients.filter (·.1 ≠ user) }
  else if r.clients.any (·.1 = user) then
    { r with clients := r.clients.map fun entry => if entry.1 = user then (user, clients) else entry }
  else { r with clients := r.clients ++ [(user, clients)] }

/-- Registers a connection, and says whether there could be a queue for it. -/
def register (r : Registry) (id : ConnectionId) : Bool × Registry :=
  if r.capacity ≤ Outbox.maxCapacity then
    (true, r.setClients id.user (r.clientsOf id.user ++ [{ serial := id.serial }]))
  else (false, r)

/-- Forgets what is left of a queue. -/
def forget (r : Registry) (id : ConnectionId) : Registry :=
  { r with ended := r.ended.filter (·.1 ≠ id) }

/-- Puts `remnant` in place of what is left of a queue. -/
def setRemnant (r : Registry) (id : ConnectionId) (remnant : Remnant) : Registry :=
  { r with ended := (id, remnant) :: (r.forget id).ended }

/-- Leaves the frames of a queue to its reader, if it has one. -/
def leave (r : Registry) (id : ConnectionId) (o : Outbox) : Registry :=
  if o.readerGone then r.forget id else r.setRemnant id { frames := o.frames }

/-- Ends a registration, and says whether there was one. -/
def unregister (r : Registry) (id : ConnectionId) : Bool × Registry :=
  match r.outbox? id with
  | some o =>
    let others := (r.clientsOf id.user).filter (·.serial ≠ id.serial)
    (true, (r.setClients id.user others).leave id o)
  | none => (false, r)

/-- Puts `outbox` in place of a registered connection's queue. -/
def setOutbox (r : Registry) (id : ConnectionId) (outbox : Outbox) : Registry :=
  r.setClients id.user ((r.clientsOf id.user).map fun c =>
    if c.serial = id.serial then { c with outbox } else c)

/-! ### Offering frames -/

/-- Whom a frame is for: every connection, or those of some users. -/
inductive Audience where
  | everyone
  | users (ids : List String)
  deriving DecidableEq, Repr

/-- What came of offering a frame: how many connections took it, and which were too slow. -/
structure Offer where
  delivered : Nat := 0
  slow : List ConnectionId := []
  deriving DecidableEq

/-- Offers a frame to the connections of a user. -/
def offerUser (frame : Frame) (state : Offer × Registry) (user : String) : Offer × Registry :=
  let (report, r) := state
  let clients := r.clientsOf user
  let meets (fate : Fate) (c : Client) : Bool := c.outbox.fate r.capacity = fate
  ({ delivered := report.delivered + clients.countP (meets .queued)
     slow := report.slow ++ (clients.filter (meets .refused)).map fun c => ⟨user, c.serial⟩ },
    r.setClients user (clients.map fun c =>
      { c with outbox := c.outbox.offer r.capacity frame }))

/-- The users that an audience lists, in order. -/
def Audience.listed (r : Registry) : Audience → List String
  | everyone => r.clients.map (·.1)
  | users ids => ids

/-- Offers a frame to an audience.  No registration changes; a user listed twice is offered it twice. -/
def offer (r : Registry) (audience : Audience) (frame : Frame) : Offer × Registry :=
  (audience.listed r).foldl (offerUser frame) ({}, r)

/-- Offers a frame to one connection, and says whether it took it.  A full queue drops the frame. -/
def sendTo (r : Registry) (id : ConnectionId) (frame : Frame) : Bool × Registry :=
  match r.outbox? id with
  | some o =>
    if o.fate r.capacity = .queued then (true, r.setOutbox id (o.push frame)) else (false, r)
  | none => (false, r)

/-! ### Reading -/

/-- What the reader of a queue gets: the oldest frame, nothing yet, or the end. -/
inductive Reading where
  | frame (text : Frame)
  | nothing
  | ended
  deriving DecidableEq, Repr

/-- Reads what is left of a queue.  The first reading says that the queue has ended, whatever is left. -/
def takeRemnant (r : Registry) (id : ConnectionId) : Reading × Registry :=
  match r.remnant? id with
  | none | some ⟨[], true⟩ => (.ended, r)
  | some ⟨frames, false⟩ => (.ended, r.setRemnant id ⟨frames, true⟩)
  | some ⟨text :: frames, true⟩ => (.frame text, r.setRemnant id ⟨frames, true⟩)

/-- Reads a connection's queue, or what is left of it. -/
def take (r : Registry) (id : ConnectionId) : Reading × Registry :=
  match r.outbox? id with
  | none => r.takeRemnant id
  | some o =>
    match o.frames with
    | [] => (.nothing, r)
    | text :: frames => (.frame text, r.setOutbox id { o with frames })

/-- Drops the reading end of a connection's queue; a registered connection stays registered. -/
def dropReader (r : Registry) (id : ConnectionId) : Registry :=
  match r.outbox? id with
  | some _ => r.setOutbox id { readerGone := true }
  | none => r.forget id

end Registry

end ChatRelay
