import ChatRelay.Store.Call

/-! The store: its durable content, and whether it can still be used.  A call that fails leaves the store
as it was. -/

namespace ChatRelay

/-- A store.  It is poisoned when a task failed while it held the store, and then every call fails. -/
structure Store where
  database : Store.Database
  poisoned : Bool := false

namespace Store

def call (s : Store) (c : Call) : Except Error c.Answer × Store :=
  if s.poisoned then (.error .poisoned, s)
  else
    match c.apply s.database with
    | .ok (answer, database) => (.ok answer, { s with database })
    | .error e => (.error e, s)

end Store

end ChatRelay
