import ChatRelay.Proofs.Store.Pairs
import ChatRelay.Startup

/-! Records are permanent.  A site is a database file, together with the relay that runs over it if one
does.  Whatever happens at a site, as long as no fault takes channels away, the users, the channels and the
messages of its store only get more, at the end, and none that is there changes. -/

namespace ChatRelay

open Relation (ReflTransGen)

namespace Store

variable {db db' : Database}

namespace Database

theorem Grows.kindText? {id text : String} (h : db.Grows db') (hText : db.kindText? id = some text) :
    db'.kindText? id = some text := by
  obtain ⟨row, hRow, rfl⟩ := Option.map_eq_some_iff.1 hText
  exact Option.map_eq_some_iff.2 ⟨row, h.channel? hRow, rfl⟩

theorem createChannel_of_present {id : String} (h : (db.channel? id).isSome) (name kind : String) :
    ∃ cause, db.createChannel id name kind = .error cause := by
  cases hCreate : db.createChannel id name kind with
  | error cause => exact ⟨cause, rfl⟩
  | ok db' =>
    obtain ⟨hCreated, -⟩ | ⟨-, hFree, -⟩ := insertChannel_ok (createChannel_ok hCreate)
    · contradiction
    · rw [hFree] at h
      contradiction

end Database

/-- A call that would make a channel of a taken id changes nothing. -/
theorem call_createChannel_of_present {s : Store} {id : String} (h : (s.database.channel? id).isSome)
    (name kind : String) :
    ∃ cause, s.call (.createChannel id name kind) = (.error cause, s) := by
  obtain ⟨cause, hCreate⟩ := Database.createChannel_of_present h name kind
  unfold call
  split
  · exact ⟨_, rfl⟩
  · simp only [Call.apply, Call.change, hCreate]
    exact ⟨cause, rfl⟩

theorem call_findOrCreateDirect_of_present {s : Store} {id : String}
    (h : (s.database.channel? id).isSome) (a b : String) :
    (s.call (.findOrCreateDirect id a b)).2 = s := by
  unfold call
  split
  · rfl
  · simp only [Call.apply, Database.findOrCreateDirect_of_present h]

end Store

open Store (File Faults)
open Store.Database (Grows)

/-! ### Sites -/

/-- A database file, closed or with a relay over it. -/
inductive Site where
  | closed (file : File)
  | serving (r : Relay)

namespace Site

def content : Site → Store.Database
  | closed file => file.content
  | serving r => r.store.database

/-- One thing that happens at a site. -/
inductive Step : Site → Site → Prop
  /-- A relay is started. -/
  | opens (c : Config) {file file' : File} {r : Relay} (h : c.start file = (.ok r, file')) :
      Step (closed file) (serving r)
  /-- No relay can be started. -/
  | refuses (c : Config) {file file' : File} {cause : Store.Error}
      (h : c.start file = (.error cause, file')) : Step (closed file) (closed file')
  /-- The relay ends. -/
  | closes (r : Relay) : Step (serving r) (closed (.migrated r.store.database))
  /-- An activity is run: an operation of the store or of the relay, or as much of one as is run before
  it is abandoned or another goes on. -/
  | runs {α : Type} (t : Activity α) (r : Relay) : Step (serving r) (serving (t.run r).2)
  /-- A task fails while it holds the store. -/
  | poisons (r : Relay) : Step (serving r) (serving { r with store.poisoned := true })
  /-- Inserts are refused or ignored from now on, or no longer. -/
  | faults (r : Relay) (f : Faults) (hStay : f.vanishChannels = false) :
      Step (serving r) (serving { r with store.database.faults := f })

end Site

theorem Action.statements_perform (action : Action) (r : Relay) :
    Store.Database.Statements r.store.database (action.perform r).2.store.database := by
  cases action with
  | call c => exact Store.statements_of_call r.store c
  | _ => exact .refl

theorem Activity.statements_of_run {α : Type} (t : Activity α) (r : Relay) :
    Store.Database.Statements r.store.database (t.run r).2.store.database := by
  induction t generalizing r with
  | done a => exact .refl
  | act action next ih =>
    exact (action.statements_perform r).trans (ih _ _)

theorem Config.start_ok {c : Config} {file file' : File} {r : Relay} (h : c.start file = (.ok r, file')) :
    ∃ db, file.openFile = (.ok db, file') ∧ r = .ofDatabase db c.queueCapacity := by
  unfold start at h
  split at h
  · rename_i db file₁ hOpen
    obtain ⟨rfl, rfl⟩ : Relay.ofDatabase db c.queueCapacity = r ∧ file₁ = file' := by simpa using h
    exact ⟨db, hOpen, rfl⟩
  · simp at h

theorem Config.start_error {c : Config} {file file' : File} {cause : Store.Error}
    (h : c.start file = (.error cause, file')) : file.openFile = (.error cause, file') := by
  unfold start at h
  split at h
  · simp at h
  · rename_i e file₁ hOpen
    obtain ⟨rfl, rfl⟩ : e = cause ∧ file₁ = file' := by simpa using h
    exact hOpen

namespace Site

variable {s s' : Site}

theorem Step.grows (h : Step s s') (hFaults : s.content.faults.vanishChannels = false) :
    s.content.Grows s'.content ∧ s'.content.faults.vanishChannels = false := by
  -- What a start seeds and what a relay runs are statements, and these keep the faults.
  have hKept {db' : Store.Database} (hStatements : Store.Database.Statements s.content db') :
      s.content.Grows db' ∧ db'.faults.vanishChannels = false := by
    obtain ⟨hGrows, hSame⟩ := hStatements.grow hFaults
    exact ⟨hGrows, hSame ▸ hFaults⟩
  cases h with
  | opens c hStart =>
    obtain ⟨db, hOpen, rfl⟩ := Config.start_ok hStart
    exact hKept (File.openFile_ok hOpen).2
  | refuses c hStart =>
    have hSame := File.content_of_openFile_error (Config.start_error hStart)
    show Grows _ (File.content _) ∧ (File.content _).faults.vanishChannels = false
    rw [hSame]
    exact ⟨.refl _, hFaults⟩
  | closes r => exact ⟨.refl _, hFaults⟩
  | runs t r => exact hKept (t.statements_of_run r)
  | poisons r => exact ⟨.refl _, hFaults⟩
  | faults r f hStay => exact ⟨{ Grows.refl r.store.database with }, hStay⟩

theorem grows_of_steps (h : ReflTransGen Step s s') (hFaults : s.content.faults.vanishChannels = false) :
    s.content.Grows s'.content ∧ s'.content.faults.vanishChannels = false := by
  induction h with
  | refl => exact ⟨.refl _, hFaults⟩
  | tail _ hStep ih =>
    obtain ⟨hGrows, hStay⟩ := ih
    obtain ⟨hMore, hStill⟩ := hStep.grows hStay
    exact ⟨hGrows.trans hMore, hStill⟩

end Site

/-- Whatever happens at a site, the users, the channels and the messages that are there stay as they are and
in their order, and new ones come after them.  So the text of a channel's kind never changes, and to make a
channel whose id was taken, or to open a conversation of that id, changes nothing. -/
theorem records_are_permanent {s s' : Site} (hFaults : s.content.faults.vanishChannels = false)
    (hSteps : ReflTransGen Site.Step s s') :
    let db := s.content
    let db' := s'.content
    db.users.rows <+: db'.users.rows ∧ db.channels.rows <+: db'.channels.rows ∧
      db.messages <+: db'.messages ∧
      (∀ id text, db.kindText? id = some text → db'.kindText? id = some text) ∧
      ∀ id, (db.channel? id).isSome → ∀ store : Store, store.database = db' →
        (∀ name kind, ∃ cause, store.call (.createChannel id name kind) = (.error cause, store)) ∧
        ∀ a b, (store.call (.findOrCreateDirect id a b)).2 = store := by
  obtain ⟨hGrows, -⟩ := Site.grows_of_steps hSteps hFaults
  refine ⟨hGrows.users, hGrows.channels, hGrows.messages, fun id text => hGrows.kindText?, ?_⟩
  intro id hTaken store hStore
  obtain ⟨row, hRow⟩ := Option.isSome_iff_exists.1 hTaken
  have hStill : (store.database.channel? id).isSome := by
    rw [hStore, hGrows.channel? hRow]
    rfl
  constructor
  · exact Store.call_createChannel_of_present hStill
  · exact Store.call_findOrCreateDirect_of_present hStill

/-- A message outlives a failed post, a successful one, and a start of the relay from the same file. -/
theorem records_are_permanent_restart :
    let row : Store.MessageRow := ⟨"m1", "general", "ann", 3, 1, [], [], []⟩
    let r : Relay := .ofDatabase { Store.Database.fresh with messages := [row] } 1
    ∃ r' : Relay, ReflTransGen Site.Step (.serving r) (.serving r') ∧
      r'.store.database.messages.map (·.sender) = ["ann", "bob"] ∧
      [row] <+: r'.store.database.messages ∧
      r'.store.database.kindText? "general" = some "public" := by
  intro row r
  have hKeeps (r' : Relay) (hSteps : ReflTransGen Site.Step (.serving r) (.serving r')) :
      [row] <+: r'.store.database.messages ∧ r'.store.database.kindText? "general" = some "public" := by
    obtain ⟨-, -, hMessages, hKinds, -⟩ := records_are_permanent (s := .serving r) rfl hSteps
    exact ⟨hMessages, hKinds "general" "public" rfl⟩
  let req : SendRequest := ⟨"general", [104, 105], [], [], .text⟩
  let failed := ((post "bob" req ⟨.zero, 4⟩).run.run { r with store.database.faults.rejectMessages := true }).2
  let posted := ((post "bob" req ⟨.zero, 5⟩).run.run { failed with store.database.faults := {} }).2
  have hSteps : ReflTransGen Site.Step (.serving r) (.serving (.ofDatabase posted.store.database 256)) := by
    refine .head (.faults r { rejectMessages := true } rfl) ?_
    refine .head (.runs (post "bob" req ⟨.zero, 4⟩).run _) ?_
    refine .head (.faults failed {} rfl) ?_
    refine .head (.runs (post "bob" req ⟨.zero, 5⟩).run _) ?_
    refine .head (.closes posted) ?_
    exact .single (.opens {} rfl)
  exact ⟨_, hSteps, by decide +kernel, hKeeps _ hSteps⟩

end ChatRelay
