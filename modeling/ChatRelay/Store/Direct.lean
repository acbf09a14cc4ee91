import ChatRelay.Store.Database

/-! Direct conversations in the store.  A conversation is made whole or not at all. -/

namespace ChatRelay.Store.Database

/-- The name of the channel of a direct conversation. -/
def directName : String := "Direct Message"

/-- How many memberships of a channel are those of `a` or `b`. -/
def countMembers (db : Database) (channel a b : String) : Nat :=
  db.members.rows.countP fun m => m.channel = channel ∧ (m.user = a ∨ m.user = b)

/-- Finds the channel `id`, or makes it a direct conversation of `a` and `b`; says whether it made
one.  If the channel or a membership is not stored, nothing is. -/
def findOrCreateDirect (db : Database) (id a b : String) : Except Error (Bool × Database) :=
  if (db.channel? id).isSome then .ok (false, db)
  else do
    let (created, db) ← db.insertChannel id directName "dm"
    let db ← db.insertMember id a
    let db ← db.insertMember id b
    let found := db.countMembers id a b
    let expected := if a = b then 1 else 2
    if (db.channel? id).isNone ∨ found ≠ expected then throw (.incomplete id found expected)
    else return (created, db)

end ChatRelay.Store.Database
