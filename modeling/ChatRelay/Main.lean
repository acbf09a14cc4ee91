import ChatRelay.Startup

/-! The command: reads the settings from the environment and says how the relay would run with them, or
what is wrong with them. -/

namespace ChatRelay

/-- The variables that settings are read from. -/
def Config.variables : List String :=
  ["LANCHAT_HOST", "LANCHAT_PORT", "PORT", "LANCHAT_DB_PATH", "LANCHAT_JWT_SECRET",
    "MESSAGING_JWT_SECRET", "LANCHAT_OUTBOUND_QUEUE", "LANCHAT_HISTORY_LIMIT",
    "LANCHAT_HEARTBEAT_SECS", "LANCHAT_ERROR_ACKS"]

/-- The settings in one line. -/
def Config.describe (c : Config) : String :=
  "message router on " ++ c.host ++ ":" ++ toString c.port ++ " with database " ++ c.databasePath ++
    (if c.hasPlaceholderSecret then ", with a placeholder secret" else "")

end ChatRelay

open ChatRelay in
/-- Says what the settings in the environment come to. -/
def main : IO UInt32 := do
  let values ← Config.variables.mapM fun key => return (key, ← IO.getEnv key)
  match Config.ofLookup fun key => (values.lookup key).join with
  | .ok config =>
    IO.println config.describe
    return 0
  | .error e =>
    IO.eprintln e.message
    return 1
