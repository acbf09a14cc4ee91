import ChatRelay.Frame

/-! The queue of a live connection.  It holds a bounded number of frames until they are written.  A frame
that is offered to a queue joins it, is refused because the queue is full, or is dropped because nobody
reads the queue any more.  When the registration ends, the queue takes no more frames, and what is left of
it is its reader's. -/

namespace ChatRelay

/-- A live connection of a user. -/
structure ConnectionId where
  user : String
  serial : Uuid
  deriving DecidableEq

/-- The frames that wait to be written to a connection, oldest first. -/
structure Outbox where
  frames : List Frame := []
  readerGone : Bool := false
  deriving DecidableEq, Repr

/-- What is left of a queue whose registration has ended: the frames that waited in it, and whether its
reader has been told of the end. -/
structure Remnant where
  frames : List Frame := []
  told : Bool := false
  deriving DecidableEq, Repr

/-- What becomes of a frame that is offered to a queue. -/
inductive Fate where
  | queued
  | refused
  | dropped
  deriving DecidableEq, Repr

namespace Outbox

/-- The most frames that a queue can be made for; it counts its free places in 61 bits of a word. -/
def maxCapacity : Nat := UInt64.size / 8 - 1

/-- What becomes of a frame that is offered to a queue of `capacity` frames: it is dropped if nobody
reads the queue any more, and refused if the queue is full. -/
def fate (capacity : Nat) (o : Outbox) : Fate :=
  if o.readerGone then .dropped
  else if o.frames.length < capacity then .queued
  else .refused

def push (o : Outbox) (frame : Frame) : Outbox :=
  { o with frames := o.frames ++ [frame] }

/-- The queue after a frame is offered to it. -/
def offer (capacity : Nat) (frame : Frame) (o : Outbox) : Outbox :=
  match o.fate capacity with
  | .queued => o.push frame
  | .refused | .dropped => o

end Outbox

/-- A registered connection of a user. -/
structure Client where
  serial : Uuid
  outbox : Outbox := {}
  deriving DecidableEq

end ChatRelay
