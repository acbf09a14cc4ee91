import ChatRelay.Activity
import ChatRelay.Proofs.Except
import Mathlib.Data.List.Nodup
import Mathlib.Logic.Relation

/-! What a call can do to the rows of a store.  Every call that succeeds makes a few elementary changes,
each within the demands of the tables, so what an elementary change preserves holds of every content that
a run reaches.  Only the storing of a message touches the messages: every other change is an edit.
`Keyed` is the first fact of this kind: the keys of each table tell its rows apart. -/

namespace ChatRelay.Store

namespace Database

/-! ### Elementary changes -/

/-- One change to the users, the channels or the memberships of a store. -/
inductive Edit : Database → Database → Prop
  | user (db : Database) (u : UserRow) (hName : ∀ v ∈ db.users.rows, v.username ≠ u.username)
      (hId : ∀ v ∈ db.users.rows, v.id ≠ u.id) :
      Edit db { db with users.rows := db.users.rows ++ [u] }
  | channel (db : Database) (c : ChannelRow) (hId : db.channel? c.id = none) :
      Edit db { db with channels.rows := db.channels.rows ++ [c] }
  | join (db : Database) (m : MemberRow) (hNew : db.isMember m.channel m.user = false)
      (hChannel : (db.channel? m.channel).isSome) :
      Edit db { db with members.rows := db.members.rows ++ [m] }
  | leave (db : Database) (channel user : String) : Edit db (db.removeMember channel user)
  | vanish (db : Database) (channel : String) : Edit db (db.removeChannel channel)

/-- One change to the rows of a store: an edit, or a new message. -/
inductive Change : Database → Database → Prop
  | edit {db db' : Database} (h : Edit db db') : Change db db'
  | message (db : Database) (m : MessageRow) (hId : ∀ n ∈ db.messages, n.id ≠ m.id) :
      Change db { db with messages := db.messages ++ [m] }

/-- Any number of edits. -/
abbrev Edits : Database → Database → Prop :=
  Relation.ReflTransGen Edit

/-- Any number of changes. -/
abbrev Changes : Database → Database → Prop :=
  Relation.ReflTransGen Change

theorem Edits.changes {db db' : Database} (h : Edits db db') : Changes db db' :=
  h.lift id fun _ _ => .edit

theorem Change.isSome_user? {db db' : Database} {id : String} (h : Change db db')
    (hUser : (db.user? id).isSome) : (db'.user? id).isSome := by
  cases h with
  | message m hId => exact hUser
  | edit hEdit =>
    cases hEdit with
    | user u hName hId =>
      rw [user?, List.find?_append, Option.isSome_or, Bool.or_eq_true]
      exact .inl hUser
    | _ => exact hUser

theorem Changes.isSome_user? {db db' : Database} {id : String} (h : Changes db db')
    (hUser : (db.user? id).isSome) : (db'.user? id).isSome := by
  induction h with
  | refl => exact hUser
  | tail _ hChange ih => exact hChange.isSome_user? ih

theorem Edits.messages {db db' : Database} (h : Edits db db') : db'.messages = db.messages := by
  induction h with
  | refl => rfl
  | tail _ hEdit ih => cases hEdit <;> exact ih

/-! ### Inserts -/

variable {db db' : Database}

theorem insertUser_ok {u : UserRow} (h : db.insertUser u = .ok db') :
    (∀ v ∈ db.users.rows, v.username ≠ u.username) ∧ (∀ v ∈ db.users.rows, v.id ≠ u.id) ∧
      db' = { db with users.rows := db.users.rows ++ [u] } := by
  unfold insertUser at h
  split at h
  · simp at h
  split at h
  · simp at h
  rename_i hName
  split at h
  · simp at h
  rename_i hId
  exact ⟨by simpa using hName, by simpa using hId, by simpa using h.symm⟩

theorem insertUser_edits {u : UserRow} (h : db.insertUser u = .ok db') : Edits db db' := by
  obtain ⟨hName, hId, rfl⟩ := insertUser_ok h
  exact .single (.user db u hName hId)

/-- A channel is added at the end, or there is no need to, or the insert is ignored. -/
theorem insertChannel_ok {id name kind : String} {created : Bool}
    (h : db.insertChannel id name kind = .ok (created, db')) :
    (created = false ∧ db' = db ∧ (db.faults.ignoreDirect ∨ (db.channel? id).isSome)) ∨
      created = true ∧ db.channel? id = none ∧
        db' = { db with channels.rows := db.channels.rows ++ [⟨id, name, some kind, true⟩] } := by
  unfold insertChannel at h
  split at h
  · rename_i hIgnored
    obtain ⟨rfl, rfl⟩ : false = created ∧ db = db' := by simpa using h
    exact .inl ⟨rfl, rfl, .inl hIgnored.1⟩
  split at h
  · simp at h
  split at h
  · rename_i hTaken
    obtain ⟨rfl, rfl⟩ : false = created ∧ db = db' := by simpa using h
    exact .inl ⟨rfl, rfl, .inr hTaken⟩
  rename_i hFree
  obtain ⟨rfl, rfl⟩ : true = created ∧ _ = db' := by simpa using h
  exact .inr ⟨rfl, by simpa using hFree, rfl⟩

theorem insertChannel_edits {id name kind : String} {created : Bool}
    (h : db.insertChannel id name kind = .ok (created, db')) : Edits db db' := by
  obtain ⟨-, rfl, -⟩ | ⟨-, hFree, rfl⟩ := insertChannel_ok h
  · exact .refl
  · exact .single (.channel db ⟨id, name, some kind, true⟩ hFree)

theorem createChannel_ok {id name kind : String} (h : db.createChannel id name kind = .ok db') :
    db.insertChannel id name kind = .ok (true, db') := by
  unfold createChannel at h
  obtain ⟨⟨created, db₁⟩, hInsert, h⟩ := bind_eq_ok h
  cases created
  · contradiction
  obtain rfl : db₁ = db' := by injection h
  exact hInsert

theorem createChannel_edits {id name kind : String} (h : db.createChannel id name kind = .ok db') :
    Edits db db' :=
  insertChannel_edits (createChannel_ok h)

/-- A membership is added at the end, of a channel that is there and, where it must be, for a user who is
there; or there is no need to, or the insert is ignored. -/
theorem insertMember_ok {channel user : String} (h : db.insertMember channel user = .ok db') :
    (db' = db ∧ (db.faults.ignoreMembers ∨ db.isMember channel user)) ∨
      db.isMember channel user = false ∧ (db.channel? channel).isSome ∧
        (db.members.ofUsers → (db.user? user).isSome) ∧
        db' = { db with members.rows := db.members.rows ++ [⟨channel, user, db.members.ofUsers⟩] } := by
  unfold insertMember at h
  split at h
  · rename_i hIgnored
    exact .inl ⟨by simpa using h.symm, .inl hIgnored⟩
  split at h
  · simp at h
  split at h
  · rename_i hMember
    exact .inl ⟨by simpa using h.symm, .inr hMember⟩
  rename_i hNew
  split at h
  · simp at h
  rename_i hChannel
  split at h
  · simp at h
  rename_i hUser
  refine .inr ⟨by simpa using hNew, by simpa [Option.isSome_iff_ne_none] using hChannel, fun hOf => ?_,
    by simpa using h.symm⟩
  by_contra hStranger
  exact hUser ⟨hOf, by simpa using hStranger⟩

theorem insertMember_edits {channel user : String} (h : db.insertMember channel user = .ok db') :
    Edits db db' := by
  obtain ⟨rfl, -⟩ | ⟨hNew, hChannel, -, rfl⟩ := insertMember_ok h
  · exact .refl
  · exact .single (.join db ⟨channel, user, db.members.ofUsers⟩ hNew hChannel)

/-- A message with an id of its own is added at the end, once its channel is gone where messages take
their channels away. -/
theorem insertMessage_eq_ok {m : MessageRow} (h : db.insertMessage m = .ok db') :
    (∀ n ∈ db.messages, n.id ≠ m.id) ∧
      ∃ db₁, (db.faults.vanishChannels = false ∧ db₁ = db ∨
          db.faults.vanishChannels = true ∧ db₁ = db.removeChannel m.channel) ∧
        db' = { db₁ with messages := db₁.messages ++ [m] } := by
  unfold insertMessage at h
  split at h
  · simp at h
  split at h
  · simp at h
  rename_i hId
  refine ⟨by simpa using hId, ?_⟩
  obtain rfl : _ = db' := by simpa using h
  split
  · rename_i hVanish
    exact ⟨_, .inr ⟨hVanish, rfl⟩, rfl⟩
  · rename_i hStays
    exact ⟨db, .inl ⟨by simpa using hStays, rfl⟩, rfl⟩

theorem insertMessage_ok {m : MessageRow} (h : db.insertMessage m = .ok db') :
    (∀ n ∈ db.messages, n.id ≠ m.id) ∧
      ∃ db₁, Edits db db₁ ∧ db' = { db₁ with messages := db₁.messages ++ [m] } := by
  obtain ⟨hId, db₁, ⟨-, rfl⟩ | ⟨-, rfl⟩, rfl⟩ := insertMessage_eq_ok h
  · exact ⟨hId, _, .refl, rfl⟩
  · exact ⟨hId, _, .single (.vanish db m.channel), rfl⟩

theorem insertMessage_messages {m : MessageRow} (h : db.insertMessage m = .ok db') :
    db'.messages = db.messages ++ [m] := by
  obtain ⟨-, db₁, hEdits, rfl⟩ := insertMessage_ok h
  exact congrArg (· ++ [m]) hEdits.messages

theorem insertMessage_changes {m : MessageRow} (h : db.insertMessage m = .ok db') : Changes db db' := by
  obtain ⟨hId, db₁, hEdits, rfl⟩ := insertMessage_ok h
  exact hEdits.changes.tail (.message db₁ m (hEdits.messages ▸ hId))

/-! ### What an insert leaves -/

theorem channels_of_insertMember {channel user : String} (h : db.insertMember channel user = .ok db') :
    db'.channels = db.channels := by
  obtain ⟨rfl, -⟩ | ⟨-, -, -, rfl⟩ := insertMember_ok h
  · rfl
  · rfl

theorem isMember_of_insertMember {channel user id other : String}
    (h : db.insertMember channel user = .ok db') (hMember : db.isMember id other) :
    db'.isMember id other := by
  obtain ⟨rfl, -⟩ | ⟨-, -, -, rfl⟩ := insertMember_ok h
  · exact hMember
  · unfold isMember at hMember ⊢
    rw [List.any_append, hMember, Bool.true_or]

theorem removeChannel_other {id other : String} (db : Database) (user : String) (hOther : other ≠ id) :
    (db.removeChannel id).channel? other = db.channel? other ∧
      (db.removeChannel id).isMember other user = db.isMember other user := by
  constructor
  · show (db.channels.rows.filter (·.id ≠ id)).find? (·.id = other) = _
    rw [List.find?_filter]
    refine congrArg (List.find? · db.channels.rows) (funext fun row => ?_)
    by_cases hId : row.id = other
    · simp [hId, hOther]
    · simp [hId]
  · show (db.members.rows.filter (·.channel ≠ id)).any _ = db.members.rows.any _
    rw [List.any_filter]
    refine congrArg (List.any db.members.rows) (funext fun row => ?_)
    by_cases hChannel : row.channel = other
    · simp [hChannel, hOther]
    · simp [hChannel]

/-! ### Opening a conversation -/

/-- Opening a conversation that succeeds finds its channel, or is its three inserts. -/
theorem findOrCreateDirect_ok {id a b : String} {created : Bool}
    (h : db.findOrCreateDirect id a b = .ok (created, db')) :
    (db.channel? id).isSome ∧ db' = db ∨
      (db.channel? id).isNone ∧ (db'.channel? id).isSome ∧
        db'.countMembers id a b = (if a = b then 1 else 2) ∧
        ∃ db₁ db₂, db.insertChannel id directName "dm" = .ok (created, db₁) ∧
          db₁.insertMember id a = .ok db₂ ∧ db₂.insertMember id b = .ok db' := by
  unfold findOrCreateDirect at h
  split at h
  · rename_i hChannel
    exact .inl ⟨hChannel, by injection h with h; injection h with _ h; exact h.symm⟩
  rename_i hChannel
  obtain ⟨⟨made, db₁⟩, hInsert, h⟩ := bind_eq_ok h
  obtain ⟨db₂, hFirst, h⟩ := bind_eq_ok h
  obtain ⟨db₃, hSecond, h⟩ := bind_eq_ok h
  by_cases hWhole : (db₃.channel? id).isNone ∨ db₃.countMembers id a b ≠ if a = b then 1 else 2
  · rw [if_pos hWhole] at h
    contradiction
  rw [if_neg hWhole] at h
  obtain ⟨rfl, rfl⟩ : made = created ∧ db₃ = db' := by
    injection h with h
    injection h with hMade hDb
    exact ⟨hMade, hDb⟩
  rw [not_or, not_not] at hWhole
  refine .inr ⟨by simpa using hChannel, ?_, hWhole.2, db₁, db₂, hInsert, hFirst, hSecond⟩
  exact Option.isSome_iff_ne_none.2 fun hNone => hWhole.1 (by rw [hNone]; rfl)

theorem findOrCreateDirect_edits {id a b : String} {created : Bool}
    (h : db.findOrCreateDirect id a b = .ok (created, db')) : Edits db db' := by
  obtain ⟨-, rfl⟩ | ⟨-, -, -, db₁, db₂, hChannel, hFirst, hSecond⟩ := findOrCreateDirect_ok h
  · exact .refl
  · exact ((insertChannel_edits hChannel).trans (insertMember_edits hFirst)).trans
      (insertMember_edits hSecond)

end Database

open Database (Edits Changes)

/-! ### Calls -/

namespace Call

variable {db db' : Database}

/-- The call only looks at the store. -/
def IsRead : Call → Prop
  | ping | userIdOf _ | userExists _ | kindText _ | accessibleChannels _ | isMember .. | memberIds _
  | channelMembers _ | messages .. => True
  | createUser .. | createChannel .. | addMember .. | removeMember .. | findOrCreateDirect ..
  | insertMessage _ => False

theorem change_ok {r : Except Error Database} {answer : Unit} (h : change r = .ok (answer, db')) :
    r = .ok db' := by
  cases r with
  | ok db => simpa [change] using h
  | error e => simp [change] at h

theorem apply_of_isRead {c : Call} (h : c.IsRead) (db : Database) :
    ∃ answer, c.apply db = .ok (answer, db) := by
  cases c <;> first | exact absurd h id | exact ⟨_, rfl⟩

/-- The call stores a message. -/
def IsInsert : Call → Prop
  | insertMessage _ => True
  | _ => False

theorem IsRead.not_isInsert {c : Call} (h : c.IsRead) : ¬ c.IsInsert := by
  cases c <;> first | exact id | exact absurd h id

theorem edits_of_apply {c : Call} {answer : c.Answer} (hOther : ¬ c.IsInsert)
    (h : c.apply db = .ok (answer, db')) : Edits db db' := by
  cases c with
  | createUser id username fullName => exact Database.insertUser_edits (change_ok h)
  | createChannel id name kind => exact Database.createChannel_edits (change_ok h)
  | addMember channel user => exact Database.insertMember_edits (change_ok h)
  | removeMember channel user =>
    obtain rfl : db.removeMember channel user = db' := by
      injection h with h
      injection h
    exact .single (.leave db channel user)
  | findOrCreateDirect id a b => exact Database.findOrCreateDirect_edits h
  | insertMessage row => exact absurd trivial hOther
  | _ =>
    obtain rfl : db = db' := by
      injection h with h
      injection h
    exact .refl

theorem changes_of_apply {c : Call} {answer : c.Answer} (h : c.apply db = .ok (answer, db')) :
    Changes db db' := by
  by_cases hInsert : c.IsInsert
  · cases c <;> first | exact absurd hInsert id | exact Database.insertMessage_changes (change_ok h)
  · exact (edits_of_apply hInsert h).changes

end Call

/-- A call succeeds and leaves the content that it is applied to, or it leaves everything as it was. -/
theorem call_cases (s : Store) (c : Call) :
    (∃ answer db, c.apply s.database = .ok (answer, db) ∧ (s.call c).2 = { s with database := db }) ∨
      (s.call c).2 = s := by
  unfold call
  split
  · exact .inr rfl
  split
  · rename_i answer db hApply
    exact .inl ⟨answer, db, hApply, rfl⟩
  · exact .inr rfl

theorem changes_of_call (s : Store) (c : Call) : Changes s.database (s.call c).2.database := by
  obtain ⟨answer, db, hApply, hAfter⟩ | hSame := call_cases s c
  · rw [hAfter]
    exact Call.changes_of_apply hApply
  · rw [hSame]

theorem messages_of_call {s : Store} {c : Call} (h : ¬ c.IsInsert) :
    (s.call c).2.database.messages = s.database.messages := by
  obtain ⟨answer, db, hApply, hAfter⟩ | hSame := call_cases s c
  · rw [hAfter]
    exact (Call.edits_of_apply h hApply).messages
  · rw [hSame]

theorem call_insertMessage (s : Store) (row : MessageRow) :
    ((s.call (.insertMessage row)).1 = .ok () ∧
        (s.call (.insertMessage row)).2.database.messages = s.database.messages ++ [row]) ∨
      ∃ cause, s.call (.insertMessage row) = (.error cause, s) := by
  unfold call
  split
  · exact .inr ⟨_, rfl⟩
  split
  · rename_i answer database hApply
    exact .inl ⟨rfl, Database.insertMessage_messages (Call.change_ok hApply)⟩
  · exact .inr ⟨_, rfl⟩

theorem call_of_isRead {s : Store} {c : Call} (h : c.IsRead) : (s.call c).2 = s := by
  obtain ⟨answer, db, hApply, hAfter⟩ | hSame := call_cases s c
  · obtain ⟨answer', hRead⟩ := c.apply_of_isRead h s.database
    obtain ⟨-, rfl⟩ : answer' = answer ∧ s.database = db := by simpa using hRead.symm.trans hApply
    exact hAfter
  · exact hSame

@[simp] theorem poisoned_call (s : Store) (c : Call) : (s.call c).2.poisoned = s.poisoned := by
  obtain ⟨answer, db, -, hAfter⟩ | hSame := call_cases s c
  · rw [hAfter]
  · rw [hSame]

/-! ### Keys -/

namespace Database

/-- The rows of each table are told apart by what the table says: users by id and also by name,
channels and messages by id, memberships by channel and user. -/
structure Keyed (db : Database) : Prop where
  userIds : (db.users.rows.map (·.id)).Nodup
  usernames : (db.users.rows.map (·.username)).Nodup
  channelIds : (db.channels.rows.map (·.id)).Nodup
  memberships : (db.members.rows.map fun m => (m.channel, m.user)).Nodup
  messageIds : (db.messages.map (·.id)).Nodup

theorem nodup_map_concat {α β : Type} {key : α → β} {rows : List α} {row : α}
    (h : (rows.map key).Nodup) (hNew : ∀ other ∈ rows, key other ≠ key row) :
    ((rows ++ [row]).map key).Nodup := by
  rw [List.map_append, List.map_singleton, ← List.concat_eq_append]
  refine h.concat fun hMem => ?_
  obtain ⟨other, hOther, hSame⟩ := List.mem_map.1 hMem
  exact hNew other hOther hSame

theorem nodup_map_filter {α β : Type} {key : α → β} {rows : List α} (p : α → Bool)
    (h : (rows.map key).Nodup) : ((rows.filter p).map key).Nodup :=
  h.sublist (List.filter_sublist.map key)

variable {db db' : Database}

theorem Keyed.edit (h : db.Keyed) (hEdit : Edit db db') : db'.Keyed := by
  cases hEdit with
  | user u hName hId =>
    exact { h with
      userIds := nodup_map_concat h.userIds hId
      usernames := nodup_map_concat h.usernames hName }
  | channel c hId =>
    refine { h with channelIds := nodup_map_concat h.channelIds fun d hd hSame => ?_ }
    rw [channel?, List.find?_eq_none] at hId
    exact hId d hd (by simpa using hSame)
  | join m hNew =>
    refine { h with memberships := nodup_map_concat h.memberships fun n hn hSame => ?_ }
    rw [isMember, List.any_eq_false] at hNew
    exact hNew n hn (by simpa using hSame)
  | leave channel user => exact { h with memberships := nodup_map_filter _ h.memberships }
  | vanish channel =>
    exact { h with
      channelIds := nodup_map_filter _ h.channelIds
      memberships := nodup_map_filter _ h.memberships }

theorem Keyed.change (h : db.Keyed) (hChange : Change db db') : db'.Keyed := by
  cases hChange with
  | edit hEdit => exact h.edit hEdit
  | message m hId => exact { h with messageIds := nodup_map_concat h.messageIds hId }

theorem Keyed.changes (h : db.Keyed) (hChanges : Changes db db') : db'.Keyed := by
  induction hChanges with
  | refl => exact h
  | tail _ hChange ih => exact ih.change hChange

/-! ### Links -/

/-- Every membership is of a channel that is there. -/
def Linked (db : Database) : Prop :=
  ∀ m ∈ db.members.rows, (db.channel? m.channel).isSome

theorem Linked.isMember_eq_false (h : db.Linked) {channel : String} (hNone : db.channel? channel = none)
    (user : String) : db.isMember channel user = false := by
  refine List.any_eq_false.2 fun m hm hMember => ?_
  obtain ⟨rfl, -⟩ := of_decide_eq_true hMember
  have hChannel := h m hm
  rw [hNone] at hChannel
  contradiction

theorem Linked.edit (h : db.Linked) (hEdit : Edit db db') : db'.Linked := by
  cases hEdit with
  | user u hName hId => exact h
  | channel c hId =>
    intro m hm
    rw [channel?, List.find?_append, Option.isSome_or, Bool.or_eq_true]
    exact .inl (h m hm)
  | join m hNew hChannel =>
    intro n hn
    obtain hOld | hOnly := List.mem_append.1 hn
    · exact h n hOld
    · rw [List.mem_singleton.1 hOnly]
      exact hChannel
  | leave channel user => exact fun m hm => h m (List.mem_filter.1 hm).1
  | vanish channel =>
    intro m hm
    obtain ⟨hOld, hOther⟩ := List.mem_filter.1 hm
    obtain ⟨row, hRow⟩ := Option.isSome_iff_exists.1 (h m hOld)
    have hId : row.id = m.channel := by simpa using List.find?_some hRow
    have hStays : row ∈ (db.removeChannel channel).channels.rows :=
      List.mem_filter.2 ⟨List.mem_of_find?_eq_some hRow, hId ▸ hOther⟩
    exact List.find?_isSome.2 ⟨row, hStays, by simpa using hId⟩

theorem Linked.changes (h : db.Linked) (hChanges : Changes db db') : db'.Linked := by
  induction hChanges with
  | refl => exact h
  | tail _ hChange ih =>
    cases hChange with
    | edit hEdit => exact ih.edit hEdit
    | message m hId => exact ih

end Database

end Store

/-! ### Actions -/

namespace Action

/-- The action looks at the store. -/
def IsRead (action : Action) : Prop :=
  ∃ c : Store.Call, c.IsRead ∧ action = .call c

/-- The action is one on the registry. -/
def OnRegistry : Action → Prop
  | offer .. | sendTo .. | register _ | unregister _ | take _ => True
  | call _ | stamp _ => False

theorem perform_of_isRead {action : Action} (h : action.IsRead) (r : Relay) :
    (action.perform r).2 = r := by
  obtain ⟨c, hRead, rfl⟩ := h
  show { r with store := (r.store.call c).2 } = r
  rw [Store.call_of_isRead hRead]

theorem registry_perform {action : Action} (h : ¬ action.OnRegistry) (r : Relay) :
    (action.perform r).2.registry = r.registry := by
  cases action <;> first | rfl | exact absurd trivial h

theorem store_perform_of_onRegistry {action : Action} (h : action.OnRegistry) (r : Relay) :
    (action.perform r).2.store = r.store := by
  cases action <;> first | rfl | exact absurd h id

theorem changes_perform (action : Action) (r : Relay) :
    Store.Database.Changes r.store.database (action.perform r).2.store.database := by
  cases action with
  | call c => exact Store.changes_of_call r.store c
  | _ => exact .refl

theorem poisoned_perform (action : Action) (r : Relay) :
    (action.perform r).2.store.poisoned = r.store.poisoned := by
  cases action with
  | call c => exact Store.poisoned_call r.store c
  | _ => rfl

end Action

end ChatRelay
