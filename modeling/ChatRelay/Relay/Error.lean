import ChatRelay.Frame
import ChatRelay.Store.Error

/-! Why an operation of the relay fails. -/

namespace ChatRelay

/-- Why an operation of the relay fails. -/
inductive RelayError where
  /-- No channel and no user has this name. -/
  | channelMissing
  /-- The user may not see the channel. -/
  | forbidden
  /-- A call on the store failed. -/
  | storage (cause : Store.Error)
  /-- A value could not be written as JSON. -/
  | encoding (text : String)
  deriving DecidableEq, Repr

namespace RelayError

def message : RelayError → String
  | channelMissing => "channel not found"
  | forbidden => "forbidden"
  | storage cause => "storage failure: " ++ cause.message
  | encoding text => "encoding failure: " ++ text

/-- The code that an error frame gives for an error. -/
def code : RelayError → ErrorCode
  | channelMissing => .channelMissing
  | forbidden => .forbidden
  | storage _ | encoding _ => .storageFailure

end RelayError

end ChatRelay
