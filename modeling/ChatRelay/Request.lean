import ChatRelay.Message

/-! What clients ask for: to send a message, on a live connection or by a request of its own, and to
open a direct conversation. -/

namespace ChatRelay

/-- A message to send.  The destination is a channel's id, or a user's id for the direct conversation
with that user. -/
structure SendRequest where
  destination : String
  content : Payload := []
  nonce : Payload := []
  signature : Payload := []
  kind : MessageKind
  deriving DecidableEq, Repr

instance : Wire SendRequest where
  toJson r := .ofMembers [("channel_id", .ofString r.destination), ("content", r.content.toJson),
    ("nonce", r.nonce.toJson), ("signature", r.signature.toJson), ("type", Wire.toJson r.kind)]
  ofJson? j := do
    let fields ← Json.Shape.fields? ⟨["channel_id", "content", "nonce", "signature", "type"], 5,
      true⟩ j
    let destination ← fields.required "channel_id" Json.text?
    let content ← fields.withDefault "content" [] Payload.ofJson?
    let nonce ← fields.withDefault "nonce" [] Payload.ofJson?
    let signature ← fields.withDefault "signature" [] Payload.ofJson?
    let kind ← fields.required "type" Wire.ofJson?
    return { destination, content, nonce, signature, kind }

structure DirectRequest where
  target : String
  deriving DecidableEq, Repr

instance : Wire DirectRequest where
  toJson r := .ofMembers [("target_user_id", .ofString r.target)]
  ofJson? j := do
    let fields ← Json.Shape.fields? ⟨["target_user_id"], 1, true⟩ j
    let target ← fields.required "target_user_id" Json.text?
    return { target }

end ChatRelay
