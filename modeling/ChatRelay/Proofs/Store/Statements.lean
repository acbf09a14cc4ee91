import ChatRelay.Proofs.Store.Changes

/-! A call on a store as a sequence of statements.  Each statement writes or removes the rows of one table,
or finds that there is no need to; a call that succeeds is a few of them, one after another, and a call
that fails is none.  So what one statement preserves, a call does, and so does the opening of a file. -/

namespace ChatRelay.Store

variable {db db' : Database}

namespace Database

/-- One statement, carried out. -/
inductive Statement : Database → Database → Prop
  | user {db db' : Database} {u : UserRow} (h : db.insertUser u = .ok db') : Statement db db'
  | channel {db db' : Database} {id name kind : String} {created : Bool}
      (h : db.insertChannel id name kind = .ok (created, db')) : Statement db db'
  | join {db db' : Database} {channel user : String} (h : db.insertMember channel user = .ok db') :
      Statement db db'
  | leave (db : Database) (channel user : String) : Statement db (db.removeMember channel user)
  | message {db db' : Database} {m : MessageRow} (h : db.insertMessage m = .ok db') : Statement db db'

abbrev Statements : Database → Database → Prop :=
  Relation.ReflTransGen Statement

theorem findOrCreateDirect_statements {id a b : String} {created : Bool}
    (h : db.findOrCreateDirect id a b = .ok (created, db')) : Statements db db' := by
  obtain ⟨-, rfl⟩ | ⟨-, -, -, db₁, db₂, hChannel, hFirst, hSecond⟩ := findOrCreateDirect_ok h
  · exact .refl
  · exact ((Relation.ReflTransGen.single (.channel hChannel)).tail (.join hFirst)).tail (.join hSecond)

end Database

open Database (Statement Statements)

theorem Call.statements_of_apply {c : Call} {answer : c.Answer} (h : c.apply db = .ok (answer, db')) :
    Statements db db' := by
  cases c with
  | createUser id username fullName => exact .single (.user (change_ok h))
  | createChannel id name kind => exact .single (.channel (Database.createChannel_ok (change_ok h)))
  | addMember channel user => exact .single (.join (change_ok h))
  | removeMember channel user =>
    obtain rfl : db.removeMember channel user = db' := (Prod.mk.inj (Except.ok.inj h)).2
    exact .single (.leave db channel user)
  | findOrCreateDirect id a b => exact Database.findOrCreateDirect_statements h
  | insertMessage row => exact .single (.message (change_ok h))
  | _ =>
    obtain rfl : db = db' := (Prod.mk.inj (Except.ok.inj h)).2
    exact .refl

theorem statements_of_call (s : Store) (c : Call) : Statements s.database (s.call c).2.database := by
  obtain ⟨answer, db, hApply, hAfter⟩ | hSame := call_cases s c
  · rw [hAfter]
    exact Call.statements_of_apply hApply
  · rw [hSame]

/-- A call that succeeds answers and leaves what it makes of the content. -/
theorem apply_of_call_ok {s s' : Store} {c : Call} {answer : c.Answer} (h : s.call c = (.ok answer, s')) :
    c.apply s.database = .ok (answer, s'.database) := by
  unfold call at h
  split at h
  · simp at h
  split at h
  · rename_i answer' database hApply
    obtain ⟨rfl, rfl⟩ : answer' = answer ∧ { s with database } = s' := by simpa using h
    exact hApply
  · simp at h

/-- A call that fails leaves the store as it was. -/
theorem call_eq_self_of_error {s : Store} {c : Call} {cause : Error} (h : (s.call c).1 = .error cause) :
    (s.call c).2 = s := by
  unfold call at h ⊢
  split
  · rfl
  · rename_i hUsable
    rw [if_neg hUsable] at h
    cases hApply : c.apply s.database with
    | error e => rfl
    | ok result =>
      rw [hApply] at h
      contradiction

/-- What every statement preserves, statements one after another do. -/
theorem Database.Statements.preserve {P : Database → Prop}
    (hStep : ∀ {db db'}, Statement db db' → P db → P db') (hStatements : Statements db db') (h : P db) :
    P db' := by
  induction hStatements with
  | refl => exact h
  | tail _ hStatement ih => exact hStep hStatement ih

/-! ### Calls one after another -/

/-- The store after calls, one after another. -/
def after (s : Store) (calls : List Call) : Store :=
  calls.foldl (fun s c => (s.call c).2) s

theorem after_preserves {P : Database → Prop} (hStep : ∀ {db db'}, Statement db db' → P db → P db')
    {s : Store} (calls : List Call) (h : P s.database) : P (s.after calls).database := by
  induction calls generalizing s with
  | nil => exact h
  | cons c rest ih => exact ih ((statements_of_call s c).preserve hStep h)

/-! ### Growth -/

namespace Database

/-- The users, the channels and the messages of a store are the first ones of another. -/
structure Grows (db db' : Database) : Prop where
  users : db.users.rows <+: db'.users.rows
  channels : db.channels.rows <+: db'.channels.rows
  messages : db.messages <+: db'.messages

theorem Grows.refl (db : Database) : db.Grows db := by
  constructor <;> exact List.prefix_rfl

theorem Grows.trans {db'' : Database} (h : db.Grows db') (h' : db'.Grows db'') : db.Grows db'' where
  users := h.users.trans h'.users
  channels := h.channels.trans h'.channels
  messages := h.messages.trans h'.messages

theorem Grows.channel? {id : String} {row : ChannelRow} (h : db.Grows db')
    (hRow : db.channel? id = some row) : db'.channel? id = some row := by
  obtain ⟨new, hChannels⟩ := h.channels
  unfold Database.channel? at hRow ⊢
  rw [← hChannels, List.find?_append, hRow, Option.some_or]

theorem Statement.grows (h : Statement db db') (hFaults : db.faults.vanishChannels = false) :
    db.Grows db' ∧ db'.faults = db.faults := by
  cases h with
  | user hInsert =>
    obtain ⟨-, -, rfl⟩ := insertUser_ok hInsert
    exact ⟨{ Grows.refl db with users := List.prefix_append _ _ }, rfl⟩
  | channel hInsert =>
    obtain ⟨-, rfl, -⟩ | ⟨-, -, rfl⟩ := insertChannel_ok hInsert
    · exact ⟨.refl _, rfl⟩
    · exact ⟨{ Grows.refl db with channels := List.prefix_append _ _ }, rfl⟩
  | join hInsert =>
    obtain ⟨rfl, -⟩ | ⟨-, -, -, rfl⟩ := insertMember_ok hInsert
    · exact ⟨.refl _, rfl⟩
    · exact ⟨{ Grows.refl db with }, rfl⟩
  | leave channel user => exact ⟨{ Grows.refl db with }, rfl⟩
  | message hInsert =>
    obtain ⟨-, db₁, ⟨-, rfl⟩ | ⟨hVanish, -⟩, rfl⟩ := insertMessage_eq_ok hInsert
    · exact ⟨{ Grows.refl _ with messages := List.prefix_append _ _ }, rfl⟩
    · rw [hFaults] at hVanish
      contradiction

theorem Statements.grow (h : Statements db db') (hFaults : db.faults.vanishChannels = false) :
    db.Grows db' ∧ db'.faults = db.faults := by
  refine h.preserve (P := fun db₁ => db.Grows db₁ ∧ db₁.faults = db.faults) ?_ ⟨.refl db, rfl⟩
  intro db₁ db₂ hStatement ⟨hGrows, hSame⟩
  obtain ⟨hMore, hStill⟩ := hStatement.grows (hSame ▸ hFaults)
  exact ⟨hGrows.trans hMore, hStill.trans hSame⟩

end Database

/-! ### Files -/

/-- The rows of a file, whose missing tables have none. -/
def File.content : File → Database
  | draft d => d.record
  | migrated db => db

theorem Draft.migrate_ok {d : Draft} (h : d.migrate = .ok db) :
    ∃ created, d.record.insertChannel generalChannel "General" "public" = .ok (created, db) := by
  obtain ⟨⟨created, db₁⟩, hInsert, h⟩ := bind_eq_ok h
  obtain rfl : db₁ = db := by injection h
  exact ⟨created, hInsert⟩

/-- To open a file is at most to seed its shared channel. -/
theorem File.openFile_ok {file file' : File} (h : file.openFile = (.ok db, file')) :
    file' = .migrated db ∧ Statements file.content db := by
  cases file with
  | migrated db₁ =>
    obtain ⟨rfl, rfl⟩ : db₁ = db ∧ migrated db₁ = file' := by simpa [openFile] using h
    exact ⟨rfl, .refl⟩
  | draft d =>
    unfold openFile at h
    cases hMigrate : d.migrate with
    | error e => simp [hMigrate] at h
    | ok db₁ =>
      obtain ⟨rfl, rfl⟩ : db₁ = db ∧ migrated db₁ = file' := by simpa [hMigrate] using h
      obtain ⟨created, hInsert⟩ := Draft.migrate_ok hMigrate
      exact ⟨rfl, .single (.channel hInsert)⟩

/-- A file that cannot be opened keeps its rows. -/
theorem File.content_of_openFile_error {file file' : File} {cause : Error}
    (h : file.openFile = (.error cause, file')) : file'.content = file.content := by
  cases file with
  | migrated db => simp [openFile] at h
  | draft d =>
    unfold openFile at h
    cases hMigrate : d.migrate with
    | ok db => simp [hMigrate] at h
    | error e =>
      obtain ⟨-, rfl⟩ : e = cause ∧ draft d.complete = file' := by simpa [hMigrate] using h
      rfl

end ChatRelay.Store
