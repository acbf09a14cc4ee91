import ChatRelay.Json.Kept
import ChatRelay.Message

/-! The frames that the relay sends on a live connection: messages as they are, and errors inside an
`error` field. -/

namespace ChatRelay

/-- The text of a frame. -/
abbrev Frame := String

/-- Why the relay rejected a frame. -/
inductive ErrorCode where
  | malformed
  | channelMissing
  | forbidden
  | storageFailure
  deriving DecidableEq, Repr

namespace ErrorCode

def word : ErrorCode → String
  | malformed => "malformed"
  | channelMissing => "channel_missing"
  | forbidden => "forbidden"
  | storageFailure => "storage_failure"

def ofWord? : String → Option ErrorCode
  | "malformed" => some malformed
  | "channel_missing" => some channelMissing
  | "forbidden" => some forbidden
  | "storage_failure" => some storageFailure
  | _ => none

theorem ofWord?_word (c : ErrorCode) : ofWord? c.word = some c := by
  cases c <;> rfl

instance : Wire ErrorCode where
  toJson c := .ofString c.word
  ofJson? := Json.word? ofWord?

end ErrorCode

/-- What an error frame says: why, and for which destination. -/
structure ErrorDetail where
  code : ErrorCode
  channel : Option String := none
  deriving DecidableEq, Repr

instance : Wire ErrorDetail where
  toJson d := .ofMembers (("code", Wire.toJson d.code) ::
    match d.channel with
    | some channel => [("channel_id", .ofString channel)]
    | none => [])
  ofJson? j := do
    let fields ← Json.Shape.fields? ⟨["code", "channel_id"], 1, false⟩ j
    let code ← fields.required "code" Wire.ofJson?
    let channel ← fields.withDefault "channel_id" none (Json.nullable Json.text?)
    return { code, channel }

/-- An error, as a frame of its own. -/
structure ErrorFrame where
  error : ErrorDetail
  deriving DecidableEq, Repr

instance : Wire ErrorFrame where
  toJson f := .ofMembers [("error", Wire.toJson f.error)]
  ofJson? j := do
    let fields ← Json.Shape.fields? ⟨["error"], 1, false⟩ j
    let error ← fields.required "error" Wire.ofJson?
    return { error }

inductive ServerFrame where
  | error (frame : ErrorFrame)
  | message (m : Message)
  deriving DecidableEq

/-- A frame is read whole, as an error if it is one and else as a message. -/
instance : Wire ServerFrame where
  toJson
    | .error frame => Wire.toJson frame
    | .message m => Wire.toJson m
  ofJson? j :=
    if j.isKept then
      match (Wire.ofJson? j : Option ErrorFrame) with
      | some frame => some (.error frame)
      | none => (Wire.ofJson? j).map .message
    else none

end ChatRelay
