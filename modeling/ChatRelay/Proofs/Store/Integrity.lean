import ChatRelay.Proofs.Store.Statements

/-! The integrity of a store: its keys tell rows apart, and no membership dangles.  The demands of the
tables keep it so through any calls, in whatever layout a console made the tables, and also through an
opening of a file that seeds the shared channel. -/

namespace ChatRelay.Store

variable {db db' : Database}

namespace Database

/-- Where a member must be a user of the directory, every member is. -/
def Known (db : Database) : Prop :=
  db.members.ofUsers → ∀ m ∈ db.members.rows, (db.user? m.user).isSome

/-- The keys of each table tell its rows apart, and what a membership refers to is there. -/
structure Intact (db : Database) : Prop where
  keyed : db.Keyed
  linked : db.Linked
  known : db.Known

/-! ### One statement -/

theorem Statement.changes (h : Statement db db') : Changes db db' := by
  cases h with
  | user h => exact (insertUser_edits h).changes
  | channel h => exact (insertChannel_edits h).changes
  | join h => exact (insertMember_edits h).changes
  | leave channel user => exact .single (.edit (.leave db channel user))
  | message h => exact insertMessage_changes h

theorem Known.statement (h : db.Known) (hStatement : Statement db db') : db'.Known := by
  cases hStatement with
  | user hInsert =>
    have hUsers := (insertUser_edits hInsert).changes
    obtain ⟨-, -, rfl⟩ := insertUser_ok hInsert
    intro hOf m hm
    exact hUsers.isSome_user? (h hOf m hm)
  | channel hInsert =>
    obtain ⟨-, rfl, -⟩ | ⟨-, -, rfl⟩ := insertChannel_ok hInsert
    · exact h
    · exact h
  | join hInsert =>
    obtain ⟨rfl, -⟩ | ⟨-, -, hUser, rfl⟩ := insertMember_ok hInsert
    · exact h
    · intro hOf m hm
      obtain hOld | hNew := List.mem_append.1 hm
      · exact h hOf m hOld
      · obtain rfl := List.mem_singleton.1 hNew
        exact hUser hOf
  | leave channel user =>
    intro hOf m hm
    exact h hOf m (List.mem_filter.1 hm).1
  | message hInsert =>
    -- A message that takes its channel away takes the memberships of it too, and no users.
    obtain ⟨-, db₁, ⟨-, rfl⟩ | ⟨-, rfl⟩, rfl⟩ := insertMessage_eq_ok hInsert
    · exact h
    · intro hOf m hm
      exact h hOf m (List.mem_filter.1 hm).1

theorem Intact.statement (h : db.Intact) (hStatement : Statement db db') : db'.Intact where
  keyed := h.keyed.changes hStatement.changes
  linked := h.linked.changes hStatement.changes
  known := h.known.statement hStatement

theorem Intact.statements (h : db.Intact) (hStatements : Statements db db') : db'.Intact :=
  hStatements.preserve (fun hStatement h => h.statement hStatement) h

theorem intact_empty : File.empty.content.Intact := by
  refine ⟨?_, ?_, ?_⟩
  · constructor <;> exact List.nodup_nil
  · intro m hm
    exact absurd hm List.not_mem_nil
  · intro _ m hm
    exact absurd hm List.not_mem_nil

end Database

/-! ### Every reached store -/

/-- A store that a fresh file or a console's was opened to stays intact through any calls, whether they
succeed or fail: ids of users, channels and messages are told apart, and so are user names and the pairs
of a membership; every membership is of a channel that is there and, where the console's table asks for
it, of a user who is there.  And a call that fails leaves the store as it was. -/
theorem intact_after_calls {file file' : File} {s : Store}
    (hFile : file = .empty ∨ file.content.Intact) (hOpen : file.openFile = (.ok s.database, file'))
    (calls : List Call) :
    let reached := s.after calls
    reached.database.Intact ∧
      ∀ c cause, (reached.call c).1 = .error cause → (reached.call c).2 = reached := by
  intro reached
  have hContent : file.content.Intact := by
    obtain rfl | hIntact := hFile
    · exact Database.intact_empty
    · exact hIntact
  have hStart : s.database.Intact := hContent.statements (File.openFile_ok hOpen).2
  constructor
  · exact after_preserves (fun hStatement h => h.statement hStatement) calls hStart
  · intro c cause hError
    exact call_eq_self_of_error hError

/-- In a console's file, where members must be users, a conversation is opened and a stranger refused. -/
theorem intact_after_calls_console :
    let file : File := .draft {
      users := some { rows := [⟨"u1", "ann", none⟩, ⟨"u2", "bob", none⟩], passwordRequired := true }
      channels := some { rows := [⟨"ops", "Ops", none, false⟩] }
      members := some { rows := [⟨"ops", "u1", true⟩], ofUsers := true } }
    let calls : List Call := [.addMember "general" "u1", .findOrCreateDirect "dm:u1:u2" "u1" "u2",
      .createChannel "dm:u1:u2" "Taken" "public", .removeMember "general" "u1"]
    ∃ s : Store, file.openFile.1 = .ok s.database ∧
      (s.after calls).database.memberIds "dm:u1:u2" = ["u1", "u2"] ∧
      (s.after calls).database.Intact ∧
      ((s.after calls).call (.addMember "general" "u9")).1 = .error .dangling ∧
      ((s.after calls).call (.addMember "general" "u9")).2 = s.after calls := by
  intro file calls
  have hFile : file.content.Intact := by
    refine ⟨⟨?_, ?_, ?_, ?_, ?_⟩, ?_, ?_⟩
    · decide
    · decide
    · decide
    · decide
    · decide
    · intro m hm
      obtain rfl := List.mem_singleton.1 hm
      rfl
    · intro _ m hm
      obtain rfl := List.mem_singleton.1 hm
      rfl
  obtain ⟨db, hOpen⟩ : ∃ db, file.openFile = (.ok db, .migrated db) := ⟨_, rfl⟩
  obtain ⟨hIntact, hFails⟩ := intact_after_calls (s := { database := db }) (.inr hFile) hOpen calls
  obtain rfl : _ = db := by injection congrArg Prod.fst hOpen
  exact ⟨{ database := _ }, rfl, rfl, hIntact, rfl, hFails _ _ rfl⟩

end ChatRelay.Store
