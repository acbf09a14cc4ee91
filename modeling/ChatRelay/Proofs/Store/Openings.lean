import ChatRelay.Proofs.Store.Pairs

/-! The opening of a direct conversation, whatever stands in the way of its inserts.  Beside the faults and
the demands of the tables, a trigger may stand in front of a table: it sees the row and all that is stored,
and refuses the row, or drops it in silence, or lets it pass.  Still the conversation is made whole or not
at all, and the answer tells which. -/

namespace ChatRelay.Store

/-! ### Triggers -/

/-- What a trigger does with a row that is to be inserted. -/
inductive Verdict where
  | pass
  | drop
  | refuse (cause : Error)

/-- Triggers in front of the channels and of the memberships. -/
structure Triggers where
  channel : Database → ChannelRow → Verdict := fun _ _ => .pass
  member : Database → MemberRow → Verdict := fun _ _ => .pass

namespace Database

variable {t : Triggers} {db db' : Database}

/-- Adds a channel behind a trigger, which is asked before the table is. -/
def insertChannelAmid (t : Triggers) (db : Database) (id name kind : String) :
    Except Error (Bool × Database) :=
  match t.channel db { id, name, kind := some kind, stamped := true } with
  | .pass => db.insertChannel id name kind
  | .drop => .ok (false, db)
  | .refuse cause => .error cause

/-- Adds a membership behind a trigger, which is asked before the table is. -/
def insertMemberAmid (t : Triggers) (db : Database) (channel user : String) : Except Error Database :=
  match t.member db { channel, user, stamped := db.members.ofUsers } with
  | .pass => db.insertMember channel user
  | .drop => .ok db
  | .refuse cause => .error cause

/-- Finds or makes a conversation as `findOrCreateDirect` does, with every insert behind its trigger. -/
def openAmid (t : Triggers) (db : Database) (id a b : String) : Except Error (Bool × Database) :=
  if (db.channel? id).isSome then .ok (false, db)
  else do
    let (created, db) ← db.insertChannelAmid t id directName "dm"
    let db ← db.insertMemberAmid t id a
    let db ← db.insertMemberAmid t id b
    let found := db.countMembers id a b
    let expected := if a = b then 1 else 2
    if (db.channel? id).isNone ∨ found ≠ expected then throw (.incomplete id found expected)
    else return (created, db)

theorem openAmid_nothing (db : Database) (id a b : String) :
    db.openAmid {} id a b = db.findOrCreateDirect id a b :=
  rfl

/-- A channel is added at the end, under an id that was free, or nothing is. -/
theorem insertChannelAmid_ok {id name kind : String} {created : Bool}
    (h : db.insertChannelAmid t id name kind = .ok (created, db')) :
    (created = false ∧ db' = db) ∨ created = true ∧
      db' = { db with channels.rows := db.channels.rows ++ [⟨id, name, some kind, true⟩] } := by
  unfold insertChannelAmid at h
  split at h
  · obtain ⟨rfl, rfl, -⟩ | ⟨rfl, -, rfl⟩ := insertChannel_ok h
    · exact .inl ⟨rfl, rfl⟩
    · exact .inr ⟨rfl, rfl⟩
  · obtain ⟨rfl, rfl⟩ : false = created ∧ db = db' := by simpa using h
    exact .inl ⟨rfl, rfl⟩
  · simp at h

/-- A membership that was not there is added at the end, of a channel that is there, or nothing is. -/
theorem insertMemberAmid_ok {channel user : String}
    (h : db.insertMemberAmid t channel user = .ok db') :
    db' = db ∨ db.isMember channel user = false ∧ (db.channel? channel).isSome ∧
      db' = { db with members.rows := db.members.rows ++ [⟨channel, user, db.members.ofUsers⟩] } := by
  unfold insertMemberAmid at h
  split at h
  · obtain ⟨rfl, -⟩ | ⟨hNew, hChannel, -, rfl⟩ := insertMember_ok h
    · exact .inl rfl
    · exact .inr ⟨hNew, hChannel, rfl⟩
  · exact .inl (by simpa using h.symm)
  · simp at h

/-- Without its channel no membership is added. -/
theorem insertMemberAmid_of_absent {channel user : String} (hNone : db.channel? channel = none)
    (h : db.insertMemberAmid t channel user = .ok db') : db' = db := by
  obtain hSame | ⟨-, hSome, -⟩ := insertMemberAmid_ok h
  · exact hSame
  · rw [hNone] at hSome
    contradiction

/-- An opening that is carried out finds its channel, or is its three inserts and a look at what they
made. -/
theorem openAmid_ok {id a b : String} {created : Bool}
    (h : db.openAmid t id a b = .ok (created, db')) :
    ((db.channel? id).isSome ∧ created = false ∧ db' = db) ∨
      db.channel? id = none ∧ (db'.channel? id).isSome ∧
        db'.countMembers id a b = (if a = b then 1 else 2) ∧
        ∃ db₁ db₂, db.insertChannelAmid t id directName "dm" = .ok (created, db₁) ∧
          db₁.insertMemberAmid t id a = .ok db₂ ∧ db₂.insertMemberAmid t id b = .ok db' := by
  unfold openAmid at h
  split at h
  · rename_i hChannel
    obtain ⟨rfl, rfl⟩ : false = created ∧ db = db' := by simpa using h
    exact .inl ⟨hChannel, rfl, rfl⟩
  rename_i hChannel
  obtain ⟨⟨made, db₁⟩, hInsert, h⟩ := bind_eq_ok h
  obtain ⟨db₂, hFirst, h⟩ := bind_eq_ok h
  obtain ⟨db₃, hSecond, h⟩ := bind_eq_ok h
  by_cases hWhole : (db₃.channel? id).isNone ∨ db₃.countMembers id a b ≠ if a = b then 1 else 2
  · rw [if_pos hWhole] at h
    contradiction
  rw [if_neg hWhole] at h
  obtain ⟨rfl, rfl⟩ := Prod.mk.inj (Except.ok.inj h)
  rw [not_or, not_not] at hWhole
  refine .inr ⟨by simpa using hChannel, ?_, hWhole.2, db₁, db₂, hInsert, hFirst, hSecond⟩
  simpa [Option.isSome_iff_ne_none] using hWhole.1

/-! ### Users who join -/

/-- The content of a store in which users joined a channel, one after another. -/
def joining (db : Database) (id : String) (users : List String) : Database :=
  { db with members.rows := db.members.rows ++ users.map fun user => ⟨id, user, db.members.ofUsers⟩ }

theorem joining_nil (db : Database) (id : String) : db.joining id [] = db := by
  simp [joining]

theorem isMember_joining (db : Database) (id : String) (users : List String) (user : String) :
    (db.joining id users).isMember id user ↔ db.isMember id user ∨ user ∈ users := by
  simp [isMember, joining]

/-- An insert behind a trigger has the user join, who had not, or leaves all as it was. -/
theorem insertMemberAmid_joining {id user : String} {users : List String}
    (h : (db.joining id users).insertMemberAmid t id user = .ok db') :
    db' = db.joining id users ∨ user ∉ users ∧ db' = db.joining id (users ++ [user]) := by
  obtain hSame | ⟨hNew, -, rfl⟩ := insertMemberAmid_ok h
  · exact .inl hSame
  · refine .inr ⟨fun hIn => ?_, by simp [joining]⟩
    rw [(isMember_joining db id users user).2 (.inr hIn)] at hNew
    contradiction

theorem countMembers_joining {id : String} (hNobody : ∀ user, db.isMember id user = false)
    (users : List String) (a b : String) :
    (db.joining id users).countMembers id a b = users.countP fun user => user = a ∨ user = b := by
  have hOld := countMembers_of_nobody hNobody a b
  rw [countMembers] at hOld
  rw [countMembers, joining, List.countP_append, hOld, List.countP_map]
  simp [Function.comp_def]

/-! ### A conversation that was opened -/

/-- The two users of a conversation, or the one who has it alone. -/
def pair (a b : String) : List String :=
  if a = b then [a] else [a, b]

theorem mem_pair {a b user : String} : user ∈ pair a b ↔ user = a ∨ user = b := by
  unfold pair
  split
  · rename_i hSame
    simp [hSame]
  · simp

/-- The content of a store in which the conversation `id` of two users was opened. -/
def withOpened (db : Database) (id a b : String) : Database :=
  joining { db with channels.rows := db.channels.rows ++ [⟨id, directName, some "dm", true⟩] } id (pair a b)

theorem kindText?_withOpened {id : String} (hNone : db.channel? id = none) (a b : String) :
    (db.withOpened id a b).kindText? id = some "dm" := by
  have hRow : (db.withOpened id a b).channel? id = some ⟨id, directName, some "dm", true⟩ :=
    (channel?_append db _ id).trans (by rw [hNone, if_pos rfl, Option.none_or])
  rw [kindText?, hRow]
  rfl

theorem isMember_withOpened {id a b user : String} (hNobody : ∀ user, db.isMember id user = false) :
    (db.withOpened id a b).isMember id user ↔ user = a ∨ user = b := by
  rw [withOpened, isMember_joining, mem_pair]
  exact or_iff_right (Bool.eq_false_iff.1 (hNobody user))

/-- If two inserts have all whom the look expects join, both users did. -/
theorem joining_pair {id a b : String} {db₂ : Database} (hNobody : ∀ user, db.isMember id user = false)
    (hFirst : db.insertMemberAmid t id a = .ok db₂) (hSecond : db₂.insertMemberAmid t id b = .ok db')
    (hCount : db'.countMembers id a b = if a = b then 1 else 2) : db' = db.joining id (pair a b) := by
  rw [← joining_nil db id] at hFirst
  unfold pair
  -- Neither joined, or `b` alone, or `a` alone, or both: one is counted as enough only if `a` is `b`.
  obtain rfl | ⟨-, rfl⟩ := insertMemberAmid_joining hFirst
  · obtain rfl | ⟨-, rfl⟩ := insertMemberAmid_joining hSecond
    · rw [countMembers_joining hNobody] at hCount
      split at hCount <;> contradiction
    · rw [countMembers_joining hNobody] at hCount
      split at hCount
      · rename_i hSame
        rw [if_pos hSame, hSame, List.nil_append]
      · simp at hCount
  · obtain rfl | ⟨hOther, rfl⟩ := insertMemberAmid_joining hSecond
    · rw [countMembers_joining hNobody] at hCount
      split at hCount
      · rename_i hSame
        rw [if_pos hSame, List.nil_append]
      · simp at hCount
    · rw [if_neg fun hSame => hOther (by simp [hSame])]
      rfl

/-- A conversation that is opened anew is opened whole: a channel or a membership that was dropped shows
in the look at what the inserts made. -/
theorem eq_withOpened {id a b : String} {created : Bool} (hNone : db.channel? id = none)
    (hNobody : ∀ user, db.isMember id user = false) (h : db.openAmid t id a b = .ok (created, db')) :
    created = true ∧ db' = db.withOpened id a b := by
  obtain ⟨hSome, -⟩ | ⟨-, hThere, hCount, db₁, db₂, hOpen, hFirst, hSecond⟩ := openAmid_ok h
  · rw [hNone] at hSome
    contradiction
  obtain ⟨rfl, rfl⟩ | ⟨rfl, rfl⟩ := insertChannelAmid_ok hOpen
  · -- Nobody joins a channel that was dropped, so it is missing at the look.
    obtain rfl := insertMemberAmid_of_absent hNone hFirst
    obtain rfl := insertMemberAmid_of_absent hNone hSecond
    rw [hNone] at hThere
    contradiction
  · exact ⟨rfl, joining_pair hNobody hFirst hSecond hCount⟩

end Database

/-! ### What the answer tells -/

/-- Opens a conversation behind triggers, as a call on the store. -/
def openAmid (t : Triggers) (s : Store) (id a b : String) : Except Error Bool × Store :=
  if s.poisoned then (.error .poisoned, s)
  else
    match s.database.openAmid t id a b with
    | .ok (created, database) => (.ok created, { s with database })
    | .error e => (.error e, s)

theorem openAmid_nothing (s : Store) (id a b : String) :
    s.openAmid {} id a b = s.call (.findOrCreateDirect id a b) := by
  have hApply : (Call.findOrCreateDirect id a b).apply s.database = s.database.openAmid {} id a b :=
    (Database.openAmid_nothing s.database id a b).symm
  unfold openAmid call
  rw [hApply]
  cases s.database.openAmid {} id a b with
  | ok result => rfl
  | error cause => rfl

/-- What the answer to an opening tells of the store before and after it. -/
def TellsOpening (s : Store) (id a b : String) : Except Error Bool × Store → Prop
  | (.error _, s') => s' = s
  | (.ok false, s') => (s.database.channel? id).isSome ∧ s' = s
  | (.ok true, s') =>
    s.database.channel? id = none ∧ s'.database.kindText? id = some "dm" ∧
      (∀ user, s'.database.isMember id user ↔ user = a ∨ user = b) ∧
      s' = { s with database := s.database.withOpened id a b }

theorem tells_openAmid {s : Store} (hLinked : s.database.Linked) (t : Triggers) (id a b : String) :
    s.TellsOpening id a b (s.openAmid t id a b) := by
  unfold openAmid
  split
  · rfl
  cases hOpen : s.database.openAmid t id a b with
  | error cause => rfl
  | ok result =>
    obtain ⟨created, db⟩ := result
    obtain ⟨hSome, rfl, rfl⟩ | ⟨hNone, -⟩ := Database.openAmid_ok hOpen
    · exact ⟨hSome, rfl⟩
    · have hNobody := hLinked.isMember_eq_false hNone
      obtain ⟨rfl, rfl⟩ := Database.eq_withOpened hNone hNobody hOpen
      refine ⟨hNone, Database.kindText?_withOpened hNone a b, fun user => ?_, rfl⟩
      exact Database.isMember_withOpened hNobody

/-- In a store where every membership is of a channel that is there, a conversation is opened whole or not
at all, and truly answered for: an error leaves the store as it was; where the answer is that the channel was
made, it was not there, and now it is a direct conversation whose members are the two users; where the answer
is that it was not made, it was there, and nothing has changed.  This is so in every layout of the tables,
with every fault, and behind all triggers that refuse or drop what is inserted. -/
theorem opens_whole_or_not_at_all {s : Store} (hLinked : s.database.Linked) (id a b : String) :
    s.TellsOpening id a b (s.call (.findOrCreateDirect id a b)) ∧
      ∀ t, s.TellsOpening id a b (s.openAmid t id a b) :=
  ⟨openAmid_nothing s id a b ▸ tells_openAmid hLinked {} id a b, fun t => tells_openAmid hLinked t id a b⟩

/-- Where memberships of `b` are dropped, `a` has a conversation alone and none with `b`. -/
theorem opens_whole_or_not_at_all_dropping :
    let s : Store := { database := { Database.fresh with members.rows := [⟨"general", "a", false⟩] } }
    let t : Triggers := { member := fun _ m => if m.user = "b" then .drop else .pass }
    s.database.Linked ∧
      (s.openAmid t "dm:a:b" "a" "b").1 = .error (.incomplete "dm:a:b" 1 2) ∧
      (s.openAmid t "dm:a:b" "a" "b").2 = s ∧
      (s.openAmid t "dm:a:a" "a" "a").1 = .ok true ∧
      (∀ user, (s.openAmid t "dm:a:a" "a" "a").2.database.isMember "dm:a:a" user ↔ user = "a" ∨ user = "a") ∧
      (s.call (.findOrCreateDirect "dm:a:b" "a" "b")).1 = .ok true ∧
      (s.call (.findOrCreateDirect "dm:a:b" "a" "b")).2.database.kindText? "dm:a:b" = some "dm" := by
  intro s t
  have hLinked : s.database.Linked := by
    intro m hm
    obtain rfl := List.mem_singleton.1 hm
    rfl
  have hAlone := (opens_whole_or_not_at_all hLinked "dm:a:a" "a" "a").2 t
  have hBoth := opens_whole_or_not_at_all hLinked "dm:a:b" "a" "b"
  exact ⟨hLinked, rfl, hBoth.2 t, rfl, hAlone.2.2.1, rfl, hBoth.1.2.1⟩

end ChatRelay.Store
