import ChatRelay.Wire

/-! Messages.  The relay stores and forwards content, nonce and signature without reading them; on the
wire they are base64 texts, and `null` is an empty one. -/

namespace ChatRelay

/-- What a message carries. -/
inductive MessageKind where
  | text
  | image
  | file
  | system
  | voice
  deriving DecidableEq, Repr

namespace MessageKind

def code : MessageKind → Nat
  | text => 1
  | image => 2
  | file => 3
  | system => 4
  | voice => 5

def ofCode? : Nat → Option MessageKind
  | 1 => some text
  | 2 => some image
  | 3 => some file
  | 4 => some system
  | 5 => some voice
  | _ => none

theorem ofCode?_code (k : MessageKind) : ofCode? k.code = some k := by
  cases k <;> rfl

def unknownMessage (code : Nat) : String :=
  "unknown message type: " ++ toString code

instance : Wire MessageKind where
  toJson k := .ofInt k.code
  ofJson? j := j.natural? 255 >>= ofCode?

end MessageKind

/-- Bytes that the relay does not read. -/
abbrev Payload := List UInt8

namespace Payload

def toJson (p : Payload) : Json :=
  .ofString (Text.Base64.encode .standard p)

/-- Reads a base64 text, or `null` as the empty payload. -/
def ofJson? : Json → Option Payload
  | .null => some []
  | .text (.unicode s) => Text.Base64.decode? .standard s
  | _ => none

end Payload

/-- A message.  Its time is in milliseconds since 1970. -/
structure Message where
  id : Uuid
  channel : String
  sender : String
  timestamp : Int64
  kind : MessageKind
  content : Payload := []
  nonce : Payload := []
  signature : Payload := []
  deriving DecidableEq

instance : Wire Message where
  toJson m := .ofMembers [("id", .ofString m.id.toString), ("channel_id", .ofString m.channel),
    ("sender_id", .ofString m.sender), ("timestamp", .ofInt m.timestamp.toInt),
    ("type", Wire.toJson m.kind), ("content", m.content.toJson), ("nonce", m.nonce.toJson),
    ("signature", m.signature.toJson)]
  ofJson? j := do
    let fields ← Json.Shape.fields? ⟨["id", "channel_id", "sender_id", "timestamp", "type",
      "content", "nonce", "signature"], 5, false⟩ j
    let id ← fields.required "id" Json.uuid?
    let channel ← fields.required "channel_id" Json.text?
    let sender ← fields.required "sender_id" Json.text?
    let timestamp ← fields.required "timestamp" Json.int64?
    let kind ← fields.required "type" Wire.ofJson?
    let content ← fields.withDefault "content" [] Payload.ofJson?
    let nonce ← fields.withDefault "nonce" [] Payload.ofJson?
    let signature ← fields.withDefault "signature" [] Payload.ofJson?
    return { id, channel, sender, timestamp, kind, content, nonce, signature }

end ChatRelay
