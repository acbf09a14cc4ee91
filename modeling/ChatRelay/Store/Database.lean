import ChatRelay.Store.Error
import ChatRelay.Store.Row

/-! The durable content of a store: four tables, each with what it demands of its rows, the versions
that were recorded when the tables were made, and faults that a test or a broken disk has put in the
way of inserts. -/

namespace ChatRelay.Store

/-! ### Tables -/

/-- The user directory.  Where a console made it, a user needs a password. -/
structure UserTable where
  rows : List UserRow := []
  passwordRequired : Bool := false
  deriving DecidableEq, Repr

/-- The channels.  Where a console made the table, a channel may need a department. -/
structure ChannelTable where
  rows : List ChannelRow := []
  departmentRequired : Bool := false
  deriving DecidableEq, Repr

/-- The memberships.  Where a console made the table, a member must be a user of the directory, the
time of joining is noted, and a role may be needed. -/
structure MemberTable where
  rows : List MemberRow := []
  ofUsers : Bool := false
  roleRequired : Bool := false
  deriving DecidableEq, Repr

/-- What goes wrong with inserts. -/
structure Faults where
  /-- A message is refused. -/
  rejectMessages : Bool := false
  /-- A message takes its channel away. -/
  vanishChannels : Bool := false
  /-- A membership is ignored. -/
  ignoreMembers : Bool := false
  /-- A direct conversation's channel is ignored. -/
  ignoreDirect : Bool := false
  deriving DecidableEq, Repr

/-- The durable content of a store. -/
structure Database where
  users : UserTable := {}
  channels : ChannelTable := {}
  members : MemberTable := {}
  messages : List MessageRow := []
  faults : Faults := {}
  versions : List Int
  migrated : ∃ v ∈ versions, 1 ≤ v

namespace Database

/-! ### The user directory -/

def user? (db : Database) (id : String) : Option UserRow :=
  db.users.rows.find? (·.id = id)

def userIdOf? (db : Database) (username : String) : Option String :=
  (db.users.rows.find? (·.username = username)).map (·.id)

def insertUser (db : Database) (u : UserRow) : Except Error Database :=
  if db.users.passwordRequired then .error (.absent .passwordHash)
  else if db.users.rows.any (·.username = u.username) then .error (.duplicate .username)
  else if db.users.rows.any (·.id = u.id) then .error (.duplicate .userId)
  else .ok { db with users.rows := db.users.rows ++ [u] }

/-! ### Channels -/

def channel? (db : Database) (id : String) : Option ChannelRow :=
  db.channels.rows.find? (·.id = id)

def kindText? (db : Database) (id : String) : Option String :=
  (db.channel? id).map (·.kindText)

/-- Adds a channel unless its id is taken, and says whether it did. -/
def insertChannel (db : Database) (id name kind : String) : Except Error (Bool × Database) :=
  if db.faults.ignoreDirect ∧ kind = "dm" then .ok (false, db)
  else if db.channels.departmentRequired then .error (.absent .departmentId)
  else if (db.channel? id).isSome then .ok (false, db)
  else
    let row : ChannelRow := { id, name, kind := some kind, stamped := true }
    .ok (true, { db with channels.rows := db.channels.rows ++ [row] })

/-- Adds a channel, whose id must be free. -/
def createChannel (db : Database) (id name kind : String) : Except Error Database := do
  let (created, db) ← db.insertChannel id name kind
  if created then return db else throw (.channelExists id)

/-- Adds a channel of no kind, as a console may. -/
def insertUntyped (db : Database) (id name : String) : Except Error Database :=
  if db.channels.departmentRequired then .error (.absent .departmentId)
  else if (db.channel? id).isSome then .error (.duplicate .channelId)
  else .ok { db with channels.rows := db.channels.rows ++ [{ id, name, kind := none }] }

def removeChannel (db : Database) (id : String) : Database :=
  { db with
    channels.rows := db.channels.rows.filter (·.id ≠ id)
    members.rows := db.members.rows.filter (·.channel ≠ id) }

/-! ### Memberships -/

/-- The user is a member of the channel. -/
def isMember (db : Database) (channel user : String) : Bool :=
  db.members.rows.any fun m => m.channel = channel ∧ m.user = user

def memberIds (db : Database) (channel : String) : List String :=
  (db.members.rows.filter (·.channel = channel)).map (·.user)

/-- Adds a membership unless there is one. -/
def insertMember (db : Database) (channel user : String) : Except Error Database :=
  if db.faults.ignoreMembers then .ok db
  else if db.members.roleRequired then .error (.absent .memberRole)
  else if db.isMember channel user then .ok db
  else if (db.channel? channel).isNone then .error .dangling
  else if db.members.ofUsers ∧ (db.user? user).isNone then .error .dangling
  else
    let row : MemberRow := { channel, user, stamped := db.members.ofUsers }
    .ok { db with members.rows := db.members.rows ++ [row] }

def removeMember (db : Database) (channel user : String) : Database :=
  { db with members.rows := db.members.rows.filter fun m => ¬ (m.channel = channel ∧ m.user = user) }

/-! ### Messages -/

def insertMessage (db : Database) (m : MessageRow) : Except Error Database :=
  if db.faults.rejectMessages then .error (.engine "disk full")
  else if db.messages.any (·.id = m.id) then .error (.duplicate .messageId)
  else
    let db := if db.faults.vanishChannels then db.removeChannel m.channel else db
    .ok { db with messages := db.messages ++ [m] }

end Database

end ChatRelay.Store
