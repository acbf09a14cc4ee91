import ChatRelay.Channel
import ChatRelay.Relay.Operation

/-! Which channel a destination names, and who may see a channel.  Everything is read anew from the store
each time, so that a change of membership counts from the next operation on. -/

namespace ChatRelay

open Operation (call)

/-- The channel of the direct conversation of two users, whichever is named first. -/
def directChannel (a b : String) : String :=
  let (low, high) := if a ≤ b then (a, b) else (b, a)
  "dm:" ++ low ++ ":" ++ high

/-- The kind of a channel's text; a text that names none counts as closed. -/
def ChannelKind.ofText (text : String) : ChannelKind :=
  (ofWord? text).getD .closed

def channelKind (channel : String) : Operation ChannelKind := do
  match ← call (.kindText channel) with
  | some text => return .ofText text
  | none => throw .channelMissing

/-- What a destination names for a sender. -/
inductive Destination where
  /-- A channel. -/
  | channel (id : String)
  /-- Another user, for the direct conversation with them. -/
  | direct (user : String)
  /-- Nothing. -/
  | missing
  deriving DecidableEq, Repr

/-- What `token` names for `sender`.  A channel goes before a user, and nobody may name themselves. -/
def classify (sender token : String) : Operation Destination := do
  if token = "" then return .missing
  else if (← call (.kindText token)).isSome then return .channel token
  else if !(← call (.userExists token)) then return .missing
  else if token = sender then throw .forbidden
  else return .direct token

/-- The channel of the direct conversation of two users, made if there is none. -/
def openDirect (a b : String) : Operation String := do
  let id := directChannel a b
  let _ ← call (.findOrCreateDirect id a b)
  return id

/-- The channel that `token` names for `sender`; a direct conversation is made if there is none. -/
def resolve (sender token : String) : Operation String := do
  match ← classify sender token with
  | .channel id => return id
  | .direct user => openDirect sender user
  | .missing => throw .channelMissing

/-- The kind of a channel that the user may see: a shared one, or one that they are a member of. -/
def authorize (user channel : String) : Operation ChannelKind := do
  let kind ← channelKind channel
  if kind.isShared then return kind
  else
    let member : Bool ← call (.isMember channel user)
    if member then return kind else throw .forbidden

end ChatRelay
