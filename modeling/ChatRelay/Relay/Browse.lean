import ChatRelay.Relay.Access

/-! What users read: the history of a channel, the channels they see, and the members of a channel; and
the opening of direct conversations. -/

namespace ChatRelay

open Operation (call)

def userIdFor (username : String) : Operation (Option String) :=
  call (.userIdOf username)

/-- The newest messages of a channel, oldest first; a row that is no message is skipped. -/
def storedHistory (channel : String) (limit : Nat) (before : Option Int64) :
    Operation (List Message) := do
  let rows ← call (.messages channel limit before)
  return rows.filterMap Store.MessageRow.message?

/-- The newest messages of the channel that `token` names, oldest first: at most `limit` of them, and
never more than `ceiling`. -/
def history (ceiling : Nat) (user token : String) (limit : Option Nat) (before : Option Int64) :
    Operation (List Message) := do
  let channel ← resolve user token
  let _ ← authorize user channel
  storedHistory channel (match limit with | some n => min n ceiling | none => ceiling) before

/-- The channels that a user sees, by name. -/
def listChannels (user : String) : Operation (List Channel) := do
  let rows ← call (.accessibleChannels user)
  return rows.map fun row => { id := row.id, name := row.name, kind := .ofText row.kindText }

/-- The members of a channel that the user may see, by name. -/
def listMembers (user channel : String) : Operation (List ChannelMember) := do
  let _ ← authorize user channel
  let rows ← call (.channelMembers channel)
  return rows.map fun row =>
    { id := row.id, username := row.username, fullName := row.fullName.getD "" }

/-- The channel of the direct conversation of two users, of whom the second must exist. -/
def createDirect (user target : String) : Operation String := do
  if user = target then throw .forbidden
  else
    let known : Bool ← call (.userExists target)
    if known then openDirect user target else throw .channelMissing

end ChatRelay
