import ChatRelay.Store.Database

/-! What the store answers about several rows at once: the channels that a user sees, the members of a
channel, and a window of a channel's messages. -/

namespace ChatRelay.Store

/-- Each row beside every other row that it is joined to, or beside none if there is none. -/
def leftJoin {α β : Type} (rows : List α) (others : List β) (on : α → β → Bool) : List (α × Option β) :=
  rows.flatMap fun a =>
    match others.filter (on a) with
    | [] => [(a, none)]
    | found => found.map fun b => (a, some b)

namespace Database

/-! ### Channels and members -/

/-- Channels are listed by name, and by id where names agree. -/
def channelBefore (c d : ChannelRow) : Bool :=
  c.name < d.name || (c.name == d.name && c.id ≤ d.id)

/-- The shared channels and those that the user is a member of: the channels are joined to the memberships
of the user, and a channel that is not shared needs one. -/
def accessibleChannels (db : Database) (user : String) : List ChannelRow :=
  let joined := leftJoin db.channels.rows db.members.rows fun c m => m.channel = c.id ∧ m.user = user
  let seen := joined.filter fun (c, m) => c.kind = some "public" ∨ m.isSome
  (seen.map (·.1)).mergeSort channelBefore

/-- The members of a channel that are users of the directory, by name. -/
def channelMembers (db : Database) (channel : String) : List UserRow :=
  ((db.memberIds channel).filterMap db.user?).mergeSort fun u v => u.username ≤ v.username

/-! ### Messages -/

/-- The rows of a channel, older than `before` if it is given, each with its place in the order of
insertion. -/
def numbered (db : Database) (channel : String) (before : Option Int64) :
    List (MessageRow × Nat) :=
  db.messages.zipIdx.filter fun (m, _) =>
    m.channel = channel ∧ before.all (fun b => m.timestamp < b)

/-- A row comes no later than another: by time, and by insertion where times agree. -/
def notLater (a b : MessageRow × Nat) : Bool :=
  a.1.timestamp < b.1.timestamp || (a.1.timestamp == b.1.timestamp && a.2 ≤ b.2)

/-- The newest `limit` messages of a channel, older than `before` if it is given, oldest first: the
newest come first, `limit` of them are taken, and these are put in order. -/
def window (db : Database) (channel : String) (limit : Nat) (before : Option Int64) :
    List MessageRow :=
  let newest := ((db.numbered channel before).mergeSort fun a b => notLater b a).take limit
  (newest.mergeSort notLater).map (·.1)

end Database

end ChatRelay.Store
