import ChatRelay.Proofs.Store.Statements

/-! What the opening of a file does to its rows.  The migration is no transaction: it makes one table after
another, each unless there is one, seeds the shared channel, and records a version last.  So an attempt may
be abandoned after any of its steps, and `Draft.Spares` says what it can have done by then.  Nothing of this
hinders a later attempt, which ends as one on the first file would (`Draft.Spares.migrate_eq`). -/

namespace ChatRelay.Store

/-- The row of the shared channel, where the relay makes it. -/
def generalRow : ChannelRow := ⟨generalChannel, "General", some "public", true⟩

/-- The statement that seeds the shared channel. -/
def Database.seed (db : Database) : Except Error Database :=
  (·.2) <$> db.insertChannel generalChannel "General" "public"

/-- The content with the shared channel. -/
def Database.seeded (db : Database) : Database :=
  if (db.channel? generalChannel).isSome then db
  else { db with channels.rows := db.channels.rows ++ [generalRow] }

namespace File

/-- The versions that are recorded in a file. -/
def versions : File → List Int
  | draft d => d.versions
  | migrated db => db.versions

/-- The latest version, or none as 0. -/
def version (file : File) : Int :=
  file.versions.max?.getD 0

/-- `db` is what a migration makes of a file, if it needs one: every row is still there, and only the shared
channel may be new. -/
structure Migrates (file : File) (db : Database) : Prop where
  users : db.users = file.content.users
  members : db.members = file.content.members
  messages : db.messages = file.content.messages
  faults : db.faults = file.content.faults
  channels : db.channels = file.content.channels ∨
    file.version < 1 ∧ file.content.channel? generalChannel = none ∧
      db.channels = { file.content.channels with rows := file.content.channels.rows ++ [generalRow] }
  general : file.version < 1 →
    db.channel? generalChannel = some ((file.content.channel? generalChannel).getD generalRow)
  versions : db.versions = if file.version < 1 then file.versions ++ [1] else file.versions

end File

namespace Draft

/-- A step of a migration: to make a table that lacks, or to seed the shared channel. -/
inductive Step
  | users | channels | members | messages | general

def Step.perform : Step → Draft → Except Error Draft
  | users, d => .ok { d with users := some (d.users.getD {}) }
  | channels, d => .ok { d with channels := some (d.channels.getD {}) }
  | members, d => .ok { d with members := some (d.members.getD {}) }
  | messages, d => .ok { d with messages := some (d.messages.getD []) }
  | general, d => do
    let db ← d.record.seed
    return { d with channels := some db.channels }

/-- Steps, one after another. -/
def carryOut : List Step → Draft → Except Error Draft
  | [], d => .ok d
  | step :: rest, d => do
    let d ← step.perform d
    carryOut rest d

def tables : List Step := [.users, .channels, .members, .messages]

/-- An attempt to migrate that ends before a version is recorded leaves what its steps so far have made. -/
def Attempt (d d' : Draft) : Prop :=
  ∃ done, done <+: tables ++ [.general] ∧ carryOut done d = .ok d'

/-- A table is as it was, or one that lacked has been made. -/
def Spared {α : Type} (fresh : α) (table table' : Option α) : Prop :=
  table' = table ∨ table' = some (table.getD fresh)

/-- What attempts may have done that recorded nothing: tables that were missing are there and empty, and the
shared channel may have been seeded. -/
structure Spares (d d' : Draft) : Prop where
  versions : d'.versions = d.versions
  users : Spared {} d.users d'.users
  members : Spared {} d.members d'.members
  messages : Spared [] d.messages d'.messages
  channels : Spared {} d.channels d'.channels ∨ d'.channels = some d.record.seeded.channels

/-- The draft once its channels need no department. -/
def repaired (d : Draft) : Draft :=
  { d with channels := d.channels.map ({ · with departmentRequired := false }) }

end Draft

namespace File

/-- A file that needed a migration, after attempts at it of which none came to its end. -/
def Abandoned (file after : File) : Prop :=
  ∃ d d', file = draft d ∧ after = draft d' ∧ Relation.ReflTransGen Draft.Attempt d d'

/-- Attempts that recorded nothing spared what the file held. -/
def Spares (file after : File) : Prop :=
  ∃ d d', file = draft d ∧ after = draft d' ∧ d.Spares d'

/-- The file once its channels need no department. -/
def repaired : File → File
  | draft d => draft d.repaired
  | migrated db => migrated { db with channels.departmentRequired := false }

end File

/-! ### Seeding -/

namespace Database

variable {db db' : Database}

theorem channel?_seeded (db : Database) :
    db.seeded.channel? generalChannel = some ((db.channel? generalChannel).getD generalRow) := by
  unfold seeded
  split
  · rename_i hThere
    obtain ⟨row, hRow⟩ := Option.isSome_iff_exists.1 hThere
    rw [hRow]
    rfl
  · rename_i hFree
    have hNone : db.channel? generalChannel = none := by simpa using hFree
    unfold channel? at hNone ⊢
    rw [List.find?_append, hNone]
    rfl

theorem seeded_seeded (db : Database) : db.seeded.seeded = db.seeded := by
  rw [seeded, channel?_seeded]
  rfl

/-- Only the channels change. -/
theorem seeded_eq (db : Database) : db.seeded = { db with channels := db.seeded.channels } := by
  unfold seeded
  split <;> rfl

theorem seeded_not_required (db : Database) :
    ({ db with channels.departmentRequired := false } : Database).seeded =
      { db.seeded with channels.departmentRequired := false } := by
  have hSame : ({ db with channels.departmentRequired := false } : Database).channel? generalChannel =
      db.channel? generalChannel := rfl
  unfold seeded
  rw [hSame]
  split <;> rfl

theorem departmentRequired_seeded (db : Database) :
    db.seeded.channels.departmentRequired = db.channels.departmentRequired := by
  unfold seeded
  split <;> rfl

theorem seed_eq (hFaults : db.faults.ignoreDirect = false) :
    db.seed = if db.channels.departmentRequired then .error (.absent .departmentId)
      else .ok db.seeded := by
  unfold seed insertChannel seeded
  rw [if_neg (by simp [hFaults])]
  split
  · rfl
  split <;> rfl

end Database

/-! ### Steps -/

namespace Draft

variable {d d' d'' : Draft}

theorem migrate_eq (d : Draft) :
    d.migrate = if d.record.channels.departmentRequired then .error (.absent .departmentId)
      else .ok d.record.seeded :=
  Database.seed_eq rfl

theorem perform_general (d : Draft) :
    Step.general.perform d =
      if d.record.channels.departmentRequired then .error (.absent .departmentId)
      else .ok { d with channels := some d.record.seeded.channels } := by
  rw [Step.perform, Database.seed_eq rfl]
  split <;> rfl

theorem Spared.refl {α : Type} (fresh : α) (table : Option α) : Spared fresh table table :=
  .inl rfl

theorem Spared.getD_eq {α : Type} {fresh : α} {table table' : Option α} (h : Spared fresh table table') :
    table'.getD fresh = table.getD fresh := by
  obtain rfl | rfl := h
  · rfl
  · rfl

theorem Spared.trans {α : Type} {fresh : α} {table table' table'' : Option α}
    (h : Spared fresh table table') (h' : Spared fresh table' table'') : Spared fresh table table'' := by
  obtain rfl | rfl := h'
  · exact h
  · exact .inr (congrArg some h.getD_eq)

theorem Spares.refl (d : Draft) : d.Spares d :=
  ⟨rfl, .refl _ _, .refl _ _, .refl _ _, .inl (.refl _ _)⟩

/-- The content is as it was, or the shared channel has been seeded. -/
theorem Spares.record_eq (h : d.Spares d') : d'.record = d.record ∨ d'.record = d.record.seeded := by
  obtain hSpared | hMade := h.channels
  · left
    simp only [record, h.versions, h.users.getD_eq, h.members.getD_eq, h.messages.getD_eq,
      hSpared.getD_eq]
  · right
    rw [Database.seeded_eq]
    simp only [record, h.versions, h.users.getD_eq, h.members.getD_eq, h.messages.getD_eq, hMade,
      Option.getD_some]

/-- A later attempt ends as one on the first draft would. -/
theorem Spares.migrate_eq (h : d.Spares d') : d'.migrate = d.migrate := by
  obtain hSame | hSeeded := h.record_eq
  · rw [Draft.migrate_eq, Draft.migrate_eq, hSame]
  · rw [Draft.migrate_eq, Draft.migrate_eq, hSeeded, Database.departmentRequired_seeded,
      Database.seeded_seeded]

theorem Spares.trans (h : d.Spares d') (h' : d'.Spares d'') : d.Spares d'' where
  versions := h'.versions.trans h.versions
  users := h.users.trans h'.users
  members := h.members.trans h'.members
  messages := h.messages.trans h'.messages
  channels := by
    have hSeeded : d'.record.seeded = d.record.seeded := by
      obtain hSame | hSeeded := h.record_eq
      · rw [hSame]
      · rw [hSeeded, Database.seeded_seeded]
    obtain hSpared' | hMade' := h'.channels
    · obtain hSpared | hMade := h.channels
      · exact .inl (hSpared.trans hSpared')
      · obtain hSame | hSame := hSpared'
        · exact .inr (hSame.trans hMade)
        · rw [hMade, Option.getD_some] at hSame
          exact .inr hSame
    · rw [hSeeded] at hMade'
      exact .inr hMade'

theorem Step.spares {step : Step} (h : step.perform d = .ok d') : d.Spares d' := by
  cases step with
  | users =>
    obtain rfl := Except.ok.inj h
    exact { Spares.refl d with users := .inr rfl }
  | channels =>
    obtain rfl := Except.ok.inj h
    exact { Spares.refl d with channels := .inl (.inr rfl) }
  | members =>
    obtain rfl := Except.ok.inj h
    exact { Spares.refl d with members := .inr rfl }
  | messages =>
    obtain rfl := Except.ok.inj h
    exact { Spares.refl d with messages := .inr rfl }
  | general =>
    rw [perform_general] at h
    split at h
    · contradiction
    obtain rfl := Except.ok.inj h
    exact { Spares.refl d with channels := .inr rfl }

theorem spares_of_carryOut {steps : List Step} (h : carryOut steps d = .ok d') : d.Spares d' := by
  induction steps generalizing d with
  | nil =>
    obtain rfl := Except.ok.inj h
    exact .refl d
  | cons step rest ih =>
    obtain ⟨d₁, hStep, hRest⟩ := bind_eq_ok h
    exact (Step.spares hStep).trans (ih hRest)

theorem Spares.of_attempts (h : Relation.ReflTransGen Attempt d d') : d.Spares d' := by
  induction h with
  | refl => exact .refl d
  | tail _ hAttempt ih =>
    obtain ⟨done, -, hDone⟩ := hAttempt
    exact ih.trans (spares_of_carryOut hDone)

/-- To make the missing tables cannot fail. -/
theorem carryOut_tables (d : Draft) : carryOut tables d = .ok d.complete :=
  rfl

/-- To migrate is to carry out every step, and then to record the version. -/
theorem migrate_eq_carryOut (d : Draft) :
    d.migrate = record <$> carryOut (tables ++ [.general]) d := by
  have hSplit : carryOut (tables ++ [.general]) d = Step.general.perform d.complete :=
    bind_pure (Step.general.perform d.complete)
  have hRecord : d.complete.record = d.record := rfl
  rw [hSplit, perform_general, hRecord, migrate_eq]
  split
  · rfl
  · exact congrArg Except.ok d.record.seeded_eq

theorem record_repaired (d : Draft) :
    d.repaired.record = { d.record with channels.departmentRequired := false } := by
  unfold repaired record
  cases d.channels <;> rfl

theorem Spares.repaired (h : d.Spares d') : d.repaired.Spares d'.repaired := by
  refine ⟨h.versions, h.users, h.members, h.messages, ?_⟩
  unfold Draft.repaired
  obtain (hSame | hMade) | hMade := h.channels
  · rw [hSame]
    exact .inl (.refl _ _)
  · rw [hMade]
    refine .inl (.inr ?_)
    cases d.channels <;> rfl
  · rw [hMade]
    refine .inr ?_
    change _ = some d.repaired.record.seeded.channels
    rw [record_repaired, Database.seeded_not_required]
    rfl

theorem attempt_complete (d : Draft) : d.Attempt d.complete :=
  ⟨tables, List.prefix_append _ _, carryOut_tables d⟩

end Draft

/-! ### Files -/

namespace File

variable {file after : File} {db : Database}

theorem version_draft (d : Draft) : (draft d).version < 1 := by
  unfold version versions
  cases hMax : d.versions.max? with
  | none => decide
  | some v => exact d.unmigrated v (List.max?_mem hMax)

theorem version_migrated (db : Database) : 1 ≤ (migrated db).version := by
  obtain ⟨v, hv, hLate⟩ := db.migrated
  unfold version versions
  cases hMax : db.versions.max? with
  | none =>
    rw [List.max?_eq_none_iff.1 hMax] at hv
    contradiction
  | some w => exact Int.le_trans hLate ((List.max?_eq_some_iff.1 hMax).2 v hv)

theorem openFile_draft (d : Draft) :
    (draft d).openFile =
      if d.record.channels.departmentRequired then (.error (.absent .departmentId), draft d.complete)
      else (.ok d.record.seeded, migrated d.record.seeded) := by
  rw [openFile, d.migrate_eq]
  cases d.record.channels.departmentRequired <;> rfl

theorem migrates_seeded (d : Draft) : (draft d).Migrates d.record.seeded := by
  have hEarly := version_draft d
  have hSeeded := d.record.seeded_eq
  refine ⟨?_, ?_, ?_, ?_, ?_, fun _ => d.record.channel?_seeded, ?_⟩
  · rw [hSeeded]
    rfl
  · rw [hSeeded]
    rfl
  · rw [hSeeded]
    rfl
  · rw [hSeeded]
    rfl
  · unfold Database.seeded
    split
    · exact .inl rfl
    · rename_i hFree
      exact .inr ⟨hEarly, Option.not_isSome_iff_eq_none.1 hFree, rfl⟩
  · rw [hSeeded, if_pos hEarly]
    rfl

theorem migrates_self (db : Database) : (migrated db).Migrates db where
  users := rfl
  members := rfl
  messages := rfl
  faults := rfl
  channels := .inl rfl
  general hEarly := absurd (version_migrated db) (Int.not_le.2 hEarly)
  versions := (if_neg (Int.not_lt.2 (version_migrated db))).symm

theorem migrates_of_openFile_ok (h : file.openFile = (.ok db, after)) :
    file.Migrates db ∧ after = migrated db := by
  cases file with
  | migrated db₁ =>
    obtain ⟨rfl, rfl⟩ : db₁ = db ∧ migrated db₁ = after := by simpa [openFile] using h
    exact ⟨migrates_self db₁, rfl⟩
  | draft d =>
    rw [openFile_draft] at h
    split at h
    · simp at h
    obtain ⟨rfl, rfl⟩ : d.record.seeded = db ∧ migrated d.record.seeded = after := by simpa using h
    exact ⟨migrates_seeded d, rfl⟩

/-- A file opens if its channels need no department. -/
theorem openFile_of_not_required (h : file.content.channels.departmentRequired = false) :
    ∃ db, file.openFile = (.ok db, migrated db) := by
  cases file with
  | migrated db => exact ⟨db, rfl⟩
  | draft d =>
    have hNeeds : d.record.channels.departmentRequired = false := h
    rw [openFile_draft, hNeeds]
    exact ⟨_, rfl⟩

theorem abandoned_of_openFile_error {cause : Error} (h : file.openFile = (.error cause, after)) :
    file.Abandoned after ∧ cause = .absent .departmentId ∧ file.content.channels.departmentRequired := by
  cases file with
  | migrated db => simp [openFile] at h
  | draft d =>
    rw [openFile_draft] at h
    split at h
    · rename_i hRequired
      obtain ⟨rfl, rfl⟩ : .absent .departmentId = cause ∧ draft d.complete = after := by simpa using h
      exact ⟨⟨d, d.complete, rfl, rfl, .single d.attempt_complete⟩, rfl, hRequired⟩
    · simp at h

theorem Abandoned.spares (h : file.Abandoned after) : file.Spares after := by
  obtain ⟨d, d', rfl, rfl, hAttempts⟩ := h
  exact ⟨d, d', rfl, rfl, .of_attempts hAttempts⟩

theorem Spares.openFile_fst_eq (h : file.Spares after) : after.openFile.1 = file.openFile.1 := by
  obtain ⟨d, d', rfl, rfl, hSpares⟩ := h
  rw [openFile, openFile, hSpares.migrate_eq]
  cases d.migrate <;> rfl

theorem departmentRequired_repaired (file : File) :
    file.repaired.content.channels.departmentRequired = false := by
  cases file with
  | migrated db => rfl
  | draft d =>
    rw [repaired, content, d.record_repaired]

theorem Spares.repaired (h : file.Spares after) : file.repaired.Spares after.repaired := by
  obtain ⟨d, d', rfl, rfl, hSpares⟩ := h
  exact ⟨_, _, rfl, rfl, hSpares.repaired⟩

/-- Migration keeps what a file holds.  Whatever a file holds, with whatever tables, rows and versions: if it
opens, then every row is still there, the shared channel is there if the version was below 1, the one that
was there before if there was one, a version of at least 1 is recorded, and it opens again to the same
content.  If it does not, no version was recorded, every table that was there is untouched, and the cause is
a channel table that needs a department.  No attempt that ends early, at any of its steps, does more than
make tables and seed the shared channel: the file then opens, or fails to, as the first one, and once
its channels need no department, the whole migration is made of the rows of the first. -/
theorem opening_migrates (file : File) :
    (∀ db after, file.openFile = (.ok db, after) →
      file.Migrates db ∧ 1 ≤ after.version ∧ after.openFile = (.ok db, after)) ∧
    (∀ cause after, file.openFile = (.error cause, after) →
      file.Abandoned after ∧ after.content = file.content ∧ cause = .absent .departmentId ∧
        file.content.channels.departmentRequired) ∧
    (∀ after, file.Abandoned after →
      file.Spares after ∧ after.openFile.1 = file.openFile.1 ∧
        ∃ db, after.repaired.openFile = (.ok db, .migrated db) ∧ file.repaired.Migrates db ∧
          file.repaired.version < 1) := by
  refine ⟨?_, ?_, ?_⟩
  · intro db after hOpen
    obtain ⟨hMigrates, rfl⟩ := migrates_of_openFile_ok hOpen
    exact ⟨hMigrates, version_migrated db, rfl⟩
  · intro cause after hOpen
    obtain ⟨hAbandoned, hCause, hRequired⟩ := abandoned_of_openFile_error hOpen
    exact ⟨hAbandoned, content_of_openFile_error hOpen, hCause, hRequired⟩
  · intro after hAbandoned
    have hSpares := hAbandoned.spares
    obtain ⟨db, hOpen⟩ := openFile_of_not_required after.departmentRequired_repaired
    obtain ⟨db', hFirst⟩ := openFile_of_not_required file.departmentRequired_repaired
    have hSame := hSpares.repaired.openFile_fst_eq
    rw [hOpen, hFirst] at hSame
    obtain rfl := Except.ok.inj hSame
    obtain ⟨d, d', rfl, rfl, -⟩ := id hSpares
    exact ⟨hSpares, hSpares.openFile_fst_eq, db, hOpen, (migrates_of_openFile_ok hFirst).1,
      version_draft d.repaired⟩

/-- A console's channels need a department, and one of them is called like the shared one. -/
theorem opening_migrates_console :
    let general : ChannelRow := ⟨"general", "Town square", some "staff", false⟩
    let file : File := .draft {
      users := some { rows := [⟨"u1", "ann", none⟩], passwordRequired := true }
      channels := some { rows := [general], departmentRequired := true }
      versions := [0]
      unmigrated := by decide }
    ∃ after db, file.openFile = (.error (.absent .departmentId), after) ∧ file.Spares after ∧
      after.repaired.openFile = (.ok db, .migrated db) ∧ db.users.rows = [⟨"u1", "ann", none⟩] ∧
      db.channel? "general" = some general ∧ db.versions = [0, 1] ∧
      (File.migrated db).openFile = (.ok db, .migrated db) := by
  intro general file
  obtain ⟨after, hFails⟩ : ∃ after, file.openFile = (.error (.absent .departmentId), after) := ⟨_, rfl⟩
  obtain ⟨-, hError, hLater⟩ := opening_migrates file
  obtain ⟨hSpares, -, db, hOpen, hMigrates, hEarly⟩ := hLater after (hError _ after hFails).1
  refine ⟨after, db, hFails, hSpares, hOpen, ?_, hMigrates.general hEarly, ?_, rfl⟩
  · rw [hMigrates.users]
    rfl
  · rw [hMigrates.versions, if_pos hEarly]
    rfl

end File

end ChatRelay.Store
