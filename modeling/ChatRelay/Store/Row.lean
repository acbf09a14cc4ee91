import ChatRelay.Message

/-! The rows that the store holds.  An administration console may share the store: a channel it writes
may have any text as its kind, or none, and its tables note when a row was made. -/

namespace ChatRelay.Store

structure UserRow where
  id : String
  username : String
  fullName : Option String := none
  deriving DecidableEq, Repr

/-- A channel.  `stamped` says that the relay noted the time when it made the row. -/
structure ChannelRow where
  id : String
  name : String
  kind : Option String
  stamped : Bool := false
  deriving DecidableEq, Repr

/-- The text of the kind; a missing one is empty, and so names no kind. -/
def ChannelRow.kindText (c : ChannelRow) : String :=
  c.kind.getD ""

/-- A user's membership of a channel.  `stamped` says that the relay noted the time when it made the
row. -/
structure MemberRow where
  channel : String
  user : String
  stamped : Bool := false
  deriving DecidableEq, Repr

/-- A message as it is stored: its id may be any text and its kind any number. -/
structure MessageRow where
  id : String
  channel : String
  sender : String
  timestamp : Int64
  kind : Int
  content : Payload := []
  nonce : Payload := []
  signature : Payload := []
  deriving DecidableEq

namespace MessageRow

def ofMessage (m : Message) : MessageRow where
  id := m.id.toString
  channel := m.channel
  sender := m.sender
  timestamp := m.timestamp
  kind := m.kind.code
  content := m.content
  nonce := m.nonce
  signature := m.signature

/-- The message of a row, if its id is an identifier and its kind is known. -/
def message? (r : MessageRow) : Option Message :=
  match Uuid.ofString? r.id, (if 0 ≤ r.kind then MessageKind.ofCode? r.kind.toNat else none) with
  | some id, some kind => some {
      id, channel := r.channel, sender := r.sender, timestamp := r.timestamp, kind
      content := r.content, nonce := r.nonce, signature := r.signature }
  | _, _ => none

end MessageRow

end ChatRelay.Store
