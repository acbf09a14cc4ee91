import ChatRelay.Store.Direct
import ChatRelay.Store.File
import ChatRelay.Store.Query

/-! The calls on a store.  Each happens at once: it answers and changes the content, or it fails. -/

namespace ChatRelay.Store

inductive Call where
  | ping
  | createUser (id username : String) (fullName : Option String)
  | userIdOf (username : String)
  | userExists (id : String)
  | createChannel (id name kind : String)
  | kindText (channel : String)
  | accessibleChannels (user : String)
  | addMember (channel user : String)
  | removeMember (channel user : String)
  | isMember (channel user : String)
  | memberIds (channel : String)
  | channelMembers (channel : String)
  | findOrCreateDirect (id a b : String)
  | insertMessage (row : MessageRow)
  | messages (channel : String) (limit : Nat) (before : Option Int64)

namespace Call

def Answer : Call → Type
  | ping => Unit
  | createUser .. => Unit
  | userIdOf _ => Option String
  | userExists _ => Bool
  | createChannel .. => Unit
  | kindText _ => Option String
  | accessibleChannels _ => List ChannelRow
  | addMember .. => Unit
  | removeMember .. => Unit
  | isMember .. => Bool
  | memberIds _ => List String
  | channelMembers _ => List UserRow
  | findOrCreateDirect .. => Bool
  | insertMessage _ => Unit
  | messages .. => List MessageRow

def change (r : Except Error Database) : Except Error (Unit × Database) :=
  match r with
  | .ok db => .ok ((), db)
  | .error e => .error e

/-- What a call does to the content of the store. -/
def apply : (c : Call) → Database → Except Error (c.Answer × Database)
  | ping, db => .ok ((), db)
  | createUser id username fullName, db => change (db.insertUser { id, username, fullName })
  | userIdOf username, db => .ok (db.userIdOf? username, db)
  | userExists id, db => .ok ((db.user? id).isSome, db)
  | createChannel id name kind, db => change (db.createChannel id name kind)
  | kindText channel, db => .ok (db.kindText? channel, db)
  | accessibleChannels user, db => .ok (db.accessibleChannels user, db)
  | addMember channel user, db => change (db.insertMember channel user)
  | removeMember channel user, db => .ok ((), db.removeMember channel user)
  | isMember channel user, db => .ok (db.isMember channel user, db)
  | memberIds channel, db => .ok (db.memberIds channel, db)
  | channelMembers channel, db => .ok (db.channelMembers channel, db)
  | findOrCreateDirect id a b, db => db.findOrCreateDirect id a b
  | insertMessage row, db => change (db.insertMessage row)
  | messages channel limit before, db => .ok (db.window channel limit before, db)

end Call

end ChatRelay.Store
