import ChatRelay.Channel

/-! What the relay answers to requests. -/

namespace ChatRelay

/-- The channels that a user sees. -/
structure ChannelList where
  channels : List Channel
  deriving DecidableEq, Repr

instance : Wire ChannelList where
  toJson r := .ofMembers [("channels", Wire.toJson r.channels)]
  ofJson? j := do
    let fields ← Json.Shape.fields? ⟨["channels"], 1, false⟩ j
    let channels ← fields.required "channels" Wire.ofJson?
    return { channels }

/-- The members of a channel. -/
structure MemberList where
  members : List ChannelMember
  deriving DecidableEq, Repr

instance : Wire MemberList where
  toJson r := .ofMembers [("members", Wire.toJson r.members)]
  ofJson? j := do
    let fields ← Json.Shape.fields? ⟨["members"], 1, false⟩ j
    let members ← fields.required "members" Wire.ofJson?
    return { members }

/-- The channel of a direct conversation. -/
structure DirectReply where
  channel : String
  deriving DecidableEq, Repr

instance : Wire DirectReply where
  toJson r := .ofMembers [("channel_id", .ofString r.channel)]
  ofJson? j := do
    let fields ← Json.Shape.fields? ⟨["channel_id"], 1, false⟩ j
    let channel ← fields.required "channel_id" Json.text?
    return { channel }

/-- The id of a message that was sent. -/
structure SendReply where
  message : String
  success : Bool
  deriving DecidableEq, Repr

instance : Wire SendReply where
  toJson r := .ofMembers [("message_id", .ofString r.message), ("success", .bool r.success)]
  ofJson? j := do
    let fields ← Json.Shape.fields? ⟨["message_id", "success"], 2, false⟩ j
    let message ← fields.required "message_id" Json.text?
    let success ← fields.required "success" Json.bool?
    return { message, success }

/-- Why a request failed. -/
structure Refusal where
  error : String
  deriving DecidableEq, Repr

instance : Wire Refusal where
  toJson r := .ofMembers [("error", .ofString r.error)]
  ofJson? j := do
    let fields ← Json.Shape.fields? ⟨["error"], 1, false⟩ j
    let error ← fields.required "error" Json.text?
    return { error }

end ChatRelay
