/-! Why a call on the store fails. -/

namespace ChatRelay.Store

/-- A column that a constraint names. -/
inductive Column where
  | userId
  | username
  | passwordHash
  | channelId
  | departmentId
  | memberRole
  | messageId
  deriving DecidableEq, Repr

def Column.name : Column → String
  | userId => "users.id"
  | username => "users.username"
  | passwordHash => "users.password_hash"
  | channelId => "channels.id"
  | departmentId => "channels.department_id"
  | memberRole => "channel_members.role"
  | messageId => "messages.id"

/-- Why a call on the store fails. -/
inductive Error where
  /-- Another row has the value of a column that tells rows apart. -/
  | duplicate (column : Column)
  /-- A column must have a value and has none. -/
  | absent (column : Column)
  /-- A row refers to a row that does not exist. -/
  | dangling
  /-- The channel to be made exists. -/
  | channelExists (id : String)
  /-- A direct conversation was not stored with both its members. -/
  | incomplete (id : String) (found expected : Nat)
  /-- Another task failed while it held the store. -/
  | poisoned
  /-- The engine failed, in its own words. -/
  | engine (text : String)
  deriving DecidableEq, Repr

def Error.message : Error → String
  | duplicate column => "UNIQUE constraint failed: " ++ column.name
  | absent column => "NOT NULL constraint failed: " ++ column.name
  | dangling => "FOREIGN KEY constraint failed"
  | channelExists id => "channel " ++ id ++ " already exists"
  | incomplete id found expected =>
    "dm channel " ++ id ++ " incomplete after insert (" ++ toString found ++ " of " ++
      toString expected ++ " members)"
  | poisoned => "DB lock poisoned: poisoned lock: another task failed inside"
  | engine text => text

end ChatRelay.Store
