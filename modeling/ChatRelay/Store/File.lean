import ChatRelay.Store.Database

/-! Database files.  A file that the relay has not migrated yet may lack tables, or have those that a
console made.  Opening it makes the missing tables, seeds the channel that everyone shares, and records
version 1, in this order; the tables stay even if the seeding fails. -/

namespace ChatRelay.Store

/-- The id of the shared channel that every fresh store starts with. -/
def generalChannel : String := "general"

/-- A file in which no version of at least 1 is recorded. -/
structure Draft where
  users : Option UserTable := none
  channels : Option ChannelTable := none
  members : Option MemberTable := none
  messages : Option (List MessageRow) := none
  versions : List Int := []
  unmigrated : ∀ v ∈ versions, v < 1 := by simp

inductive File where
  | draft (d : Draft)
  | migrated (db : Database)

namespace Draft

/-- The draft with the tables that it lacked. -/
def complete (d : Draft) : Draft :=
  { d with
    users := some (d.users.getD {})
    channels := some (d.channels.getD {})
    members := some (d.members.getD {})
    messages := some (d.messages.getD []) }

/-- The content of the file when version 1 is recorded. -/
def record (d : Draft) : Database where
  users := d.users.getD {}
  channels := d.channels.getD {}
  members := d.members.getD {}
  messages := d.messages.getD []
  versions := d.versions ++ [1]
  migrated := ⟨1, by simp, by decide⟩

/-- The content of the file after migration. -/
def migrate (d : Draft) : Except Error Database := do
  let (_, db) ← d.record.insertChannel generalChannel "General" "public"
  return db

end Draft

namespace File

def empty : File := .draft {}

/-- Opens a file: its content, or why it cannot be opened, and what the file holds afterwards. -/
def openFile : File → Except Error Database × File
  | migrated db => (.ok db, .migrated db)
  | draft d =>
    match d.migrate with
    | .ok db => (.ok db, .migrated db)
    | .error e => (.error e, .draft d.complete)

end File

/-- The content of a fresh store. -/
def Database.fresh : Database where
  channels.rows := [{ id := generalChannel, name := "General", kind := some "public", stamped := true }]
  versions := [1]
  migrated := ⟨1, by simp, by decide⟩

/-- A file that was just made opens with the content of a fresh store. -/
theorem File.openFile_empty : File.empty.openFile = (.ok .fresh, .migrated .fresh) := rfl

end ChatRelay.Store
