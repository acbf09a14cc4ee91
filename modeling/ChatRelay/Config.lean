import ChatRelay.Text.Blank
import ChatRelay.Text.Numeral
import ChatRelay.Text.Quoted

/-! The settings of a relay, read from named variables.  A blank value counts as none.  Where a setting
has two names, the first that is set decides, even if its value is wrong. -/

namespace ChatRelay

/-- Why the variables give no settings. -/
inductive ConfigError where
  /-- The value under `key` is no numeral of its range. -/
  | numeral (key value : String) (cause : Text.NumeralError)
  /-- The value under `key` is no truth value. -/
  | boolean (key word : String)
  /-- The number under `key` is zero. -/
  | zero (key : String)
  deriving DecidableEq, Repr

namespace ConfigError

/-- What went wrong, without the cause beneath it. -/
def summary : ConfigError → String
  | numeral key value _ => "invalid " ++ key ++ ": " ++ Text.quote value
  | boolean key _ => "invalid " ++ key
  | zero key => key ++ " must be greater than zero"

def message (e : ConfigError) : String :=
  match e with
  | numeral _ _ cause => e.summary ++ ": " ++ cause.message
  | boolean _ word => e.summary ++ ": not a boolean: " ++ Text.quote word
  | zero _ => e.summary

end ConfigError

/-- The settings of a relay. -/
structure Config where
  host : String := "0.0.0.0"
  port : Nat := 8081
  databasePath : String := "data/chat.db"
  secret : String := "dev-secret-change-me"
  queueCapacity : Nat := 256
  historyLimit : Nat := 100
  heartbeatSeconds : Nat := 15
  errorAcks : Bool := false
  deriving DecidableEq, Repr

namespace Config

/-- The secrets of example set-ups, which are known to all. -/
def placeholderSecrets : List String :=
  ["change-me-to-a-random-string", "dev-secret-change-me"]

/-- The secret is known to all. -/
def hasPlaceholderSecret (c : Config) : Bool :=
  placeholderSecrets.contains c.secret

/-! ### Single settings -/

/-- The first of `keys` whose value is not blank, with that value. -/
def firstSet (lookup : String → Option String) (keys : List String) : Option (String × String) :=
  keys.findSome? fun key =>
    match lookup key with
    | some value => if Text.AllBlank value.toList then none else some (key, value)
    | none => none

/-- The text under `keys`, as it stands. -/
def text (lookup : String → Option String) (keys : List String) (absent : String) : String :=
  match firstSet lookup keys with
  | some (_, value) => value
  | none => absent

/-- The number under `keys`, of at most `bound`. -/
def number (lookup : String → Option String) (keys : List String) (bound absent : Nat) :
    Except ConfigError Nat :=
  match firstSet lookup keys with
  | some (key, value) =>
    match Text.Numeral.natural bound (Text.trim value.toList) with
    | .ok n => .ok n
    | .error cause => .error (.numeral key value cause)
  | none => .ok absent

/-- The truth value of a word in lower case. -/
def truth? : String → Option Bool
  | "1" | "true" | "yes" | "on" => some true
  | "0" | "false" | "no" | "off" => some false
  | _ => none

/-- The truth value under `key`, which is false if none is set. -/
def boolean (lookup : String → Option String) (key : String) : Except ConfigError Bool :=
  match firstSet lookup [key] with
  | some (key, value) =>
    let word := String.ofList ((Text.trim value.toList).map Char.toLower)
    match truth? word with
    | some b => .ok b
    | none => .error (.boolean key word)
  | none => .ok false

/-- A number that must not be zero. -/
def requirePositive (key : String) (n : Nat) : Except ConfigError Unit :=
  if n = 0 then .error (.zero key) else .ok ()

/-! ### All settings -/

/-- The settings that the variables give. -/
def ofLookup (lookup : String → Option String) : Except ConfigError Config := do
  let defaults : Config := {}
  let host := text lookup ["LANCHAT_HOST"] defaults.host
  let port ← number lookup ["LANCHAT_PORT", "PORT"] (UInt16.size - 1) defaults.port
  let databasePath := text lookup ["LANCHAT_DB_PATH"] defaults.databasePath
  let secret := text lookup ["LANCHAT_JWT_SECRET", "MESSAGING_JWT_SECRET"] defaults.secret
  let queueCapacity ← number lookup ["LANCHAT_OUTBOUND_QUEUE"] (UInt64.size - 1) defaults.queueCapacity
  let historyLimit ← number lookup ["LANCHAT_HISTORY_LIMIT"] (UInt32.size - 1) defaults.historyLimit
  let heartbeatSeconds ←
    number lookup ["LANCHAT_HEARTBEAT_SECS"] (UInt64.size - 1) defaults.heartbeatSeconds
  let errorAcks ← boolean lookup "LANCHAT_ERROR_ACKS"
  requirePositive "LANCHAT_OUTBOUND_QUEUE" queueCapacity
  requirePositive "LANCHAT_HISTORY_LIMIT" historyLimit
  requirePositive "LANCHAT_HEARTBEAT_SECS" heartbeatSeconds
  return {
    host, port, databasePath, secret, queueCapacity, historyLimit, heartbeatSeconds, errorAcks }

end Config

end ChatRelay
