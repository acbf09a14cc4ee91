import ChatRelay.Proofs.Footprint

/-! Operations that do not touch the messages.  They run alike whatever messages the store holds, and leave
them as they are. -/

namespace ChatRelay

open Store (Call MessageRow)

/-! ### Calls -/

namespace Store

namespace Database

/-- The content of a store with other messages. -/
def withMessages (db : Database) (rows : List MessageRow) : Database :=
  { db with messages := rows }

variable (db : Database) (rows : List MessageRow)

theorem insertUser_withMessages (u : UserRow) :
    (db.withMessages rows).insertUser u = (db.insertUser u).map (·.withMessages rows) := by
  unfold insertUser
  simp only [apply_ite (Except.map _)]
  rfl

theorem insertChannel_withMessages (id name kind : String) :
    (db.withMessages rows).insertChannel id name kind =
      (db.insertChannel id name kind).map fun result => (result.1, result.2.withMessages rows) := by
  unfold insertChannel
  simp only [apply_ite (Except.map _)]
  rfl

theorem insertMember_withMessages (channel user : String) :
    (db.withMessages rows).insertMember channel user =
      (db.insertMember channel user).map (·.withMessages rows) := by
  unfold insertMember
  simp only [apply_ite (Except.map _)]
  rfl

theorem createChannel_withMessages (id name kind : String) :
    (db.withMessages rows).createChannel id name kind =
      (db.createChannel id name kind).map (·.withMessages rows) := by
  unfold createChannel
  rw [insertChannel_withMessages]
  cases db.insertChannel id name kind with
  | error e => rfl
  | ok result =>
    obtain ⟨created, db'⟩ := result
    cases created <;> rfl

theorem findOrCreateDirect_withMessages (id a b : String) :
    (db.withMessages rows).findOrCreateDirect id a b =
      (db.findOrCreateDirect id a b).map fun result => (result.1, result.2.withMessages rows) := by
  unfold findOrCreateDirect
  have hChannel : (db.withMessages rows).channel? id = db.channel? id := rfl
  by_cases hPresent : (db.channel? id).isSome
  · rw [hChannel, if_pos hPresent, if_pos hPresent]
    rfl
  rw [hChannel, if_neg hPresent, if_neg hPresent, insertChannel_withMessages]
  cases db.insertChannel id directName "dm" with
  | error e => rfl
  | ok opened =>
    obtain ⟨created, db₁⟩ := opened
    show ((db₁.withMessages rows).insertMember id a >>= _) = Except.map _ (db₁.insertMember id a >>= _)
    rw [insertMember_withMessages]
    cases db₁.insertMember id a with
    | error e => rfl
    | ok db₂ =>
      show ((db₂.withMessages rows).insertMember id b >>= _) = Except.map _ (db₂.insertMember id b >>= _)
      rw [insertMember_withMessages]
      cases db₂.insertMember id b with
      | error e => rfl
      | ok db₃ =>
        show (if _ then _ else _) = Except.map _ (if _ then _ else _)
        rw [apply_ite (Except.map _)]
        rfl

end Database

theorem Call.apply_withMessages {c : Call} (h : (Action.call c).IsBlind) (db : Database)
    (rows : List MessageRow) :
    c.apply (db.withMessages rows) =
      (c.apply db).map fun result => (result.1, result.2.withMessages rows) := by
  cases c with
  | createUser id username fullName =>
    simp only [apply, Database.insertUser_withMessages]
    cases db.insertUser _ <;> rfl
  | createChannel id name kind =>
    simp only [apply, Database.createChannel_withMessages]
    cases db.createChannel _ _ _ <;> rfl
  | addMember channel user =>
    simp only [apply, Database.insertMember_withMessages]
    cases db.insertMember _ _ <;> rfl
  | findOrCreateDirect id a b => exact db.findOrCreateDirect_withMessages rows id a b
  | insertMessage row => exact absurd h id
  | messages channel limit before => exact absurd h id
  | _ => rfl

end Store

/-! ### Runs -/

/-- A relay with other messages in its store. -/
def Relay.withMessages (r : Relay) (rows : List MessageRow) : Relay :=
  { r with store.database := r.store.database.withMessages rows }

@[simp] theorem Relay.database_withMessages (r : Relay) (rows : List MessageRow) :
    (r.withMessages rows).store.database = r.store.database.withMessages rows :=
  rfl

@[simp] theorem Relay.poisoned_withMessages (r : Relay) (rows : List MessageRow) :
    (r.withMessages rows).store.poisoned = r.store.poisoned :=
  rfl

variable {α : Type}

theorem Action.perform_withMessages {action : Action} (h : action.IsBlind) (r : Relay)
    (rows : List MessageRow) :
    action.perform (r.withMessages rows) =
      ((action.perform r).1, (action.perform r).2.withMessages rows) := by
  cases action with
  | call c =>
    have hApply := Store.Call.apply_withMessages h r.store.database rows
    simp only [perform, Store.call, Relay.withMessages, hApply]
    split
    · rfl
    · cases c.apply r.store.database <;> rfl
  | _ => rfl

theorem Activity.run_withMessages {t : Activity α} (h : t.Uses Action.IsBlind) (r : Relay)
    (rows : List MessageRow) :
    t.run (r.withMessages rows) = ((t.run r).1, (t.run r).2.withMessages rows) := by
  induction t generalizing r with
  | done a => rfl
  | act action next ih =>
    rw [run_act, run_act, action.perform_withMessages h.1 r rows]
    exact ih _ (h.2 _) _

/-- An operation that does not touch the messages answers and does the same whatever they are. -/
theorem Operation.runOn_withMessages {op : Operation α} (h : op.Uses Action.IsBlind) (r : Relay)
    (rows : List MessageRow) :
    op.runOn (r.withMessages rows) = ((op.runOn r).1, (op.runOn r).2.withMessages rows) :=
  Activity.run_withMessages h.run r rows

theorem Operation.messages_runOn {op : Operation α} (h : op.Uses Action.IsBlind) (r : Relay) :
    (op.runOn r).2.store.database.messages = r.store.database.messages := by
  have hSame := Operation.runOn_withMessages h r r.store.database.messages
  exact congrArg (fun result => result.2.store.database.messages) hSame

/-! ### Operations -/

namespace Action

theorem Finds.isBlind {action : Action} (h : action.Finds) : action.IsBlind := by
  obtain h | ⟨a, b, -, rfl⟩ := h
  · exact h.2
  · trivial

end Action

end ChatRelay
