import ChatRelay.Proofs.Store.Statements
import ChatRelay.Relay.Access

/-! Direct conversations in the store.  As long as nobody else writes under their names, every channel
that is named like a direct conversation was opened for some pair of users, and has just these two as
members.  Whoever opens it adds one channel and two memberships, and a channel that is there stays. -/

namespace ChatRelay

/-- The id is like that of a direct conversation. -/
def NamesDirect (id : String) : Prop :=
  ∃ rest, id = "dm:" ++ rest

theorem directChannel_of_le {a b : String} (h : a ≤ b) : directChannel a b = "dm:" ++ (a ++ ":" ++ b) := by
  rw [directChannel, if_pos h]
  simp only [String.append_assoc]

theorem directChannel_comm (a b : String) : directChannel a b = directChannel b a := by
  by_cases h : a ≤ b
  · by_cases h' : b ≤ a
    · rw [String.le_antisymm h h']
    · rw [directChannel, directChannel, if_pos h, if_neg h']
  · have h' : b ≤ a := (String.le_total a b).resolve_left h
    rw [directChannel, directChannel, if_neg h, if_pos h']

theorem namesDirect_directChannel (a b : String) : NamesDirect (directChannel a b) := by
  obtain h | h := String.le_total a b
  · exact ⟨_, directChannel_of_le h⟩
  · exact ⟨_, (directChannel_comm a b).trans (directChannel_of_le h)⟩

theorem NamesDirect.ne_empty {id : String} (h : NamesDirect id) : id ≠ "" := by
  obtain ⟨rest, rfl⟩ := h
  exact fun hEmpty => absurd (String.append_eq_empty_iff.1 hEmpty).1 (by decide)

theorem directChannel_ne_left (a b : String) : directChannel a b ≠ a := by
  intro hSame
  have hColon : ":".length = 1 := rfl
  have hPrefix : "dm:".length = 3 := rfl
  have hLength := congrArg String.length hSame
  obtain h | h := String.le_total a b
  · rw [directChannel_of_le h] at hLength
    simp only [String.length_append] at hLength
    omega
  · rw [directChannel_comm, directChannel_of_le h] at hLength
    simp only [String.length_append] at hLength
    omega

theorem directChannel_ne_right (a b : String) : directChannel a b ≠ b :=
  directChannel_comm a b ▸ directChannel_ne_left b a

namespace Store.Database

/-- The channel is a direct conversation, and its members are `a` and `b`. -/
def IsBetween (db : Database) (channel a b : String) : Prop :=
  db.kindText? channel = some "dm" ∧ ∀ user, db.isMember channel user ↔ user = a ∨ user = b

/-- The channel was opened for two users who are its members, or it is not there and has none. -/
inductive IsPaired (db : Database) (id : String) : Prop
  | absent (hNone : db.channel? id = none) (hNobody : ∀ user, db.isMember id user = false)
  | opened (a b : String) (hNe : a ≠ b) (hName : id = directChannel a b) (hBetween : db.IsBetween id a b)

/-- No insert goes wrong, and every channel that is named like a direct conversation is paired. -/
structure Paired (db : Database) : Prop where
  faults : db.faults = {}
  conversations : ∀ id, NamesDirect id → db.IsPaired id

variable {db db' : Database}

theorem IsBetween.isSome_channel? {id a b : String} (h : db.IsBetween id a b) :
    (db.channel? id).isSome := by
  rw [← Option.isSome_map, ← kindText?, h.1]
  rfl

/-! ### Inserts -/

theorem channel?_append (db : Database) (row : ChannelRow) (id : String) :
    channel? { db with channels.rows := db.channels.rows ++ [row] } id =
      (db.channel? id).or (if row.id = id then some row else none) := by
  rw [channel?, channel?, List.find?_append, List.find?_singleton]
  simp

/-- Where no insert goes wrong, a channel is added at the end unless its id is taken. -/
theorem insertChannel_exact {id name kind : String} {created : Bool}
    (h : db.insertChannel id name kind = .ok (created, db')) (hFaults : db.faults = {}) :
    (created = false ∧ db' = db ∧ (db.channel? id).isSome) ∨
      created = true ∧ db.channel? id = none ∧
        db' = { db with channels.rows := db.channels.rows ++ [⟨id, name, some kind, true⟩] } := by
  obtain ⟨rfl, rfl, hIgnored | hTaken⟩ | hNew := insertChannel_ok h
  · rw [hFaults] at hIgnored
    contradiction
  · exact .inl ⟨rfl, rfl, hTaken⟩
  · exact .inr hNew

theorem insertChannel_of_faults (hFaults : db.faults = {}) {id name kind : String} {created : Bool}
    (h : db.insertChannel id name kind = .ok (created, db')) :
    (created = false ∧ db' = db ∧ (db.channel? id).isSome) ∨
      created = true ∧ db'.faults = {} ∧ (∀ other user, db'.isMember other user = db.isMember other user) ∧
        ∀ other, db'.channel? other = (db.channel? other).or
          (if id = other then some { id, name, kind := some kind, stamped := true } else none) := by
  obtain hTaken | ⟨rfl, -, rfl⟩ := insertChannel_exact h hFaults
  · exact .inl hTaken
  · exact .inr ⟨rfl, hFaults, fun _ _ => rfl, channel?_append db _⟩

/-- Where no insert goes wrong, a membership is added at the end unless there is one. -/
theorem insertMember_exact {channel user : String} (h : db.insertMember channel user = .ok db')
    (hFaults : db.faults = {}) :
    (db.isMember channel user ∧ db' = db) ∨ db.isMember channel user = false ∧
      db' = { db with members.rows := db.members.rows ++ [⟨channel, user, db.members.ofUsers⟩] } := by
  obtain ⟨rfl, hIgnored | hMember⟩ | ⟨hNew, -, -, rfl⟩ := insertMember_ok h
  · rw [hFaults] at hIgnored
    contradiction
  · exact .inl ⟨hMember, rfl⟩
  · exact .inr ⟨hNew, rfl⟩

theorem insertMember_of_faults (hFaults : db.faults = {}) {channel user : String}
    (h : db.insertMember channel user = .ok db') :
    db'.faults = {} ∧ (∀ id, db'.channel? id = db.channel? id) ∧
      ∀ id v, db'.isMember id v ↔ db.isMember id v ∨ id = channel ∧ v = user := by
  obtain ⟨hMember, rfl⟩ | ⟨-, rfl⟩ := insertMember_exact h hFaults
  · refine ⟨hFaults, fun _ => rfl, fun id v => ⟨.inl, ?_⟩⟩
    rintro (hOld | ⟨rfl, rfl⟩)
    · exact hOld
    · exact hMember
  · refine ⟨hFaults, fun _ => rfl, fun id v => ?_⟩
    rw [isMember, isMember, List.any_append, Bool.or_eq_true, List.any_cons, List.any_nil, Bool.or_false,
      decide_eq_true_iff]
    exact or_congr .rfl (and_congr eq_comm eq_comm)

theorem insertMessage_of_faults (hFaults : db.faults = {}) {m : MessageRow}
    (h : db.insertMessage m = .ok db') : db' = { db with messages := db.messages ++ [m] } := by
  obtain ⟨-, db₁, ⟨-, rfl⟩ | ⟨hVanish, -⟩, rfl⟩ := insertMessage_eq_ok h
  · rfl
  · rw [hFaults] at hVanish
    contradiction

/-! ### What keeps conversations paired -/

/-- Only the channel and its members matter to whether it is paired. -/
theorem IsPaired.frame {id : String} (h : db.IsPaired id) (hChannel : db'.channel? id = db.channel? id)
    (hMember : ∀ user, db'.isMember id user ↔ db.isMember id user) : db'.IsPaired id := by
  cases h with
  | absent hNone hNobody =>
    refine .absent (hChannel.trans hNone) fun user => ?_
    rw [Bool.eq_false_iff, ne_eq, hMember, hNobody]
    exact Bool.false_ne_true
  | opened a b hNe hName hBetween =>
    refine .opened a b hNe hName ⟨?_, fun user => (hMember user).trans (hBetween.2 user)⟩
    rw [kindText?, hChannel]
    exact hBetween.1

theorem Paired.frame (h : db.Paired) (hFaults : db'.faults = {})
    (hChannel : ∀ id, NamesDirect id → db'.channel? id = db.channel? id)
    (hMember : ∀ id, NamesDirect id → ∀ user, db'.isMember id user ↔ db.isMember id user) :
    db'.Paired :=
  ⟨hFaults, fun id hName => (h.conversations id hName).frame (hChannel id hName) (hMember id hName)⟩

theorem Paired.insertUser (h : db.Paired) {u : UserRow} (hOk : db.insertUser u = .ok db') :
    db'.Paired := by
  obtain ⟨-, -, rfl⟩ := insertUser_ok hOk
  exact h.frame h.faults (fun _ _ => rfl) fun _ _ _ => .rfl

theorem Paired.createChannel (h : db.Paired) {id name kind : String} (hOther : ¬ NamesDirect id)
    (hOk : db.createChannel id name kind = .ok db') : db'.Paired := by
  obtain ⟨hCreated, -⟩ | ⟨-, hFaults, hMember, hChannel⟩ :=
    insertChannel_of_faults h.faults (createChannel_ok hOk)
  · contradiction
  refine h.frame hFaults (fun other hName => ?_) fun other _ user => by rw [hMember]
  have hNe : id ≠ other := fun hSame => hOther (hSame ▸ hName)
  rw [hChannel, if_neg hNe, Option.or_none]

theorem Paired.insertMember (h : db.Paired) {channel user : String} (hOther : ¬ NamesDirect channel)
    (hOk : db.insertMember channel user = .ok db') : db'.Paired := by
  obtain ⟨hFaults, hChannel, hMember⟩ := insertMember_of_faults h.faults hOk
  refine h.frame hFaults (fun id _ => hChannel id) fun id hName v => ?_
  rw [hMember, or_iff_left]
  exact fun hSame => hOther (hSame.1 ▸ hName)

theorem Paired.removeMember (h : db.Paired) {channel : String} (hOther : ¬ NamesDirect channel)
    (user : String) : (db.removeMember channel user).Paired := by
  refine h.frame h.faults (fun _ _ => rfl) fun id hName v => ?_
  have hNe : id ≠ channel := fun hSame => hOther (hSame ▸ hName)
  simp only [isMember, Database.removeMember, List.any_filter, List.any_eq_true]
  refine exists_congr fun m => and_congr .rfl ?_
  simp only [Bool.and_eq_true, decide_eq_true_iff]
  exact ⟨And.right, fun hm => ⟨fun hGone => hNe (hm.1.symm.trans hGone.1), hm⟩⟩

theorem Paired.insertMessage (h : db.Paired) {m : MessageRow} (hOk : db.insertMessage m = .ok db') :
    db'.Paired := by
  obtain rfl := insertMessage_of_faults h.faults hOk
  exact h.frame h.faults (fun _ _ => rfl) fun _ _ _ => .rfl

theorem findOrCreateDirect_of_present {id : String} (h : (db.channel? id).isSome) (a b : String) :
    db.findOrCreateDirect id a b = .ok (false, db) :=
  if_pos h

theorem isBetween_of_opened (hFaults : db.faults = {}) {id a b : String} {created : Bool}
    (hNone : db.channel? id = none) (hNobody : ∀ user, db.isMember id user = false)
    (hOk : db.findOrCreateDirect id a b = .ok (created, db')) :
    db'.IsBetween id a b ∧ db'.faults = {} ∧ ∀ other, other ≠ id →
      db'.channel? other = db.channel? other ∧
        ∀ user, db'.isMember other user ↔ db.isMember other user := by
  obtain ⟨hSome, -⟩ | ⟨-, -, -, db₁, db₂, hOpen, hFirst, hSecond⟩ := findOrCreateDirect_ok hOk
  · rw [hNone] at hSome
    contradiction
  obtain ⟨-, -, hSome⟩ | ⟨-, hFaults₁, hMember₁, hChannel₁⟩ := insertChannel_of_faults hFaults hOpen
  · rw [hNone] at hSome
    contradiction
  obtain ⟨hFaults₂, hChannel₂, hMember₂⟩ := insertMember_of_faults hFaults₁ hFirst
  obtain ⟨hFaults', hChannel', hMember'⟩ := insertMember_of_faults hFaults₂ hSecond
  refine ⟨⟨?_, fun user => ?_⟩, hFaults', fun other hOther => ⟨?_, fun user => ?_⟩⟩
  · rw [kindText?, hChannel', hChannel₂, hChannel₁, hNone, if_pos rfl]
    rfl
  · rw [hMember', hMember₂, hMember₁, hNobody]
    simp
  · rw [hChannel', hChannel₂, hChannel₁, if_neg hOther.symm, Option.or_none]
  · rw [hMember', hMember₂, hMember₁]
    simp [hOther]

theorem Paired.findOrCreateDirect (h : db.Paired) {a b : String} (hNe : a ≠ b) {created : Bool}
    (hOk : db.findOrCreateDirect (directChannel a b) a b = .ok (created, db')) : db'.Paired := by
  cases h.conversations _ (namesDirect_directChannel a b) with
  | absent hNone hNobody =>
    obtain ⟨hBetween, hFaults, hOthers⟩ := isBetween_of_opened h.faults hNone hNobody hOk
    refine ⟨hFaults, fun id hName => ?_⟩
    by_cases hId : id = directChannel a b
    · exact .opened a b hNe hId (hId ▸ hBetween)
    · obtain ⟨hChannel, hMember⟩ := hOthers id hId
      exact (h.conversations id hName).frame hChannel hMember
  | opened p q _ _ hBetween =>
    rw [findOrCreateDirect_of_present hBetween.isSome_channel? a b] at hOk
    obtain ⟨-, rfl⟩ : false = created ∧ db = db' := by simpa using hOk
    exact h

/-! ### Opening -/

theorem isSome_channel?_of_opened {id a b : String} {created : Bool}
    (h : db.findOrCreateDirect id a b = .ok (created, db')) : (db'.channel? id).isSome := by
  obtain ⟨hPresent, rfl⟩ | ⟨-, hPresent, -⟩ := findOrCreateDirect_ok h
  · exact hPresent
  · exact hPresent

/-- The tables ask for no more than a direct conversation has. -/
structure IsPlain (db : Database) : Prop where
  faults : db.faults = {}
  departments : db.channels.departmentRequired = false
  roles : db.members.roleRequired = false
  strangers : db.members.ofUsers = false

theorem IsPlain.insertChannel (h : db.IsPlain) {id : String} (hNone : db.channel? id = none)
    (name kind : String) :
    ∃ db₁, db.insertChannel id name kind = .ok (true, db₁) ∧ db₁.IsPlain ∧
      (db₁.channel? id).isSome ∧ db₁.members = db.members := by
  refine ⟨{ db with channels.rows := db.channels.rows ++ [⟨id, name, kind, true⟩] }, ?_,
    ⟨h.faults, h.departments, h.roles, h.strangers⟩, ?_, rfl⟩
  · unfold Database.insertChannel
    rw [if_neg (by simp [h.faults]), if_neg (by simp [h.departments]), if_neg (by simp [hNone])]
  · rw [channel?_append, if_pos rfl, Option.isSome_or]
    exact Bool.or_true _

theorem IsPlain.insertMember (h : db.IsPlain) {channel user : String}
    (hNew : db.isMember channel user = false) (hChannel : (db.channel? channel).isSome) :
    ∃ db₁, db.insertMember channel user = .ok db₁ ∧ db₁.IsPlain ∧ db₁.channels = db.channels ∧
      db₁.members.rows = db.members.rows ++ [{ channel, user, stamped := db.members.ofUsers }] := by
  refine ⟨{ db with members.rows := db.members.rows ++ [⟨channel, user, db.members.ofUsers⟩] }, ?_,
    ⟨h.faults, h.departments, h.roles, h.strangers⟩, rfl, rfl⟩
  unfold Database.insertMember
  rw [if_neg (by simp [h.faults]), if_neg (by simp [h.roles]), if_neg (by simp [hNew]),
    if_neg (by simpa using Option.isSome_iff_ne_none.1 hChannel), if_neg (by simp [h.strangers])]

theorem countMembers_of_nobody {id : String} (h : ∀ user, db.isMember id user = false) (a b : String) :
    db.countMembers id a b = 0 := by
  refine List.countP_eq_zero.2 fun m hMem hCounted => ?_
  have hOld := h m.user
  rw [isMember, List.any_eq_false] at hOld
  exact hOld m hMem (by simpa using (of_decide_eq_true hCounted).1)

/-- Where the tables ask for no more, two users without a conversation can be given one. -/
theorem IsPlain.findOrCreateDirect (h : db.IsPlain) {id a b : String} (hNe : a ≠ b)
    (hNone : db.channel? id = none) (hNobody : ∀ user, db.isMember id user = false) :
    ∃ db', db.findOrCreateDirect id a b = .ok (true, db') := by
  obtain ⟨db₁, hOpen, hPlain₁, hChannel₁, hMembers₁⟩ := h.insertChannel hNone directName "dm"
  have hNew₁ : db₁.isMember id a = false := by
    rw [isMember, hMembers₁]
    exact hNobody a
  obtain ⟨db₂, hFirst, hPlain₂, hChannels₂, hRows₂⟩ := hPlain₁.insertMember hNew₁ hChannel₁
  have hChannel₂ : (db₂.channel? id).isSome := by
    rw [channel?, hChannels₂]
    exact hChannel₁
  have hNew₂ : db₂.isMember id b = false := by
    rw [isMember, hRows₂, hMembers₁, List.any_append]
    exact Bool.or_eq_false_iff.2 ⟨hNobody b, by simp [hNe]⟩
  obtain ⟨db₃, hSecond, -, hChannels₃, hRows₃⟩ := hPlain₂.insertMember hNew₂ hChannel₂
  have hChannel₃ : (db₃.channel? id).isSome := by
    rw [channel?, hChannels₃]
    exact hChannel₂
  have hCount : db₃.countMembers id a b = 2 := by
    have hOld := countMembers_of_nobody hNobody a b
    rw [countMembers] at hOld
    rw [countMembers, hRows₃, hRows₂, hMembers₁, List.countP_append, List.countP_append, hOld]
    simp
  refine ⟨db₃, ?_⟩
  unfold Database.findOrCreateDirect
  rw [if_neg (by simp [hNone]), hOpen]
  show (db₁.insertMember id a >>= _) = _
  rw [hFirst]
  show (db₂.insertMember id b >>= _) = _
  rw [hSecond]
  show (if _ then _ else _) = _
  rw [if_neg (by simpa [hCount, hNe] using Option.isSome_iff_ne_none.1 hChannel₃)]
  rfl

/-! ### A conversation that was made -/

/-- The row of the channel of a direct conversation. -/
def directRow (a b : String) : ChannelRow :=
  { id := directChannel a b, name := directName, kind := some "dm", stamped := true }

/-- The content of a store in which two users were given their direct conversation. -/
def withDirect (db : Database) (a b : String) : Database :=
  { db with
    channels.rows := db.channels.rows ++ [directRow a b]
    members.rows := db.members.rows ++
      [⟨directChannel a b, a, db.members.ofUsers⟩, ⟨directChannel a b, b, db.members.ofUsers⟩] }

/-- Two users without a conversation are given one, if they are given anything. -/
theorem findOrCreateDirect_new {a b : String} {created : Bool}
    (h : db.findOrCreateDirect (directChannel a b) a b = .ok (created, db')) (hFaults : db.faults = {})
    (hNe : a ≠ b) (hNone : db.channel? (directChannel a b) = none)
    (hNobody : ∀ user, db.isMember (directChannel a b) user = false) :
    created = true ∧ db' = db.withDirect a b := by
  obtain ⟨hSome, -⟩ | ⟨-, -, -, db₁, db₂, hOpen, hFirst, hSecond⟩ := findOrCreateDirect_ok h
  · rw [hNone] at hSome
    contradiction
  obtain ⟨-, -, hSome⟩ | ⟨rfl, -, rfl⟩ := insertChannel_exact hOpen hFaults
  · rw [hNone] at hSome
    contradiction
  obtain ⟨hMember, -⟩ | ⟨-, rfl⟩ := insertMember_exact hFirst hFaults
  · exact absurd (hMember.symm.trans (hNobody a)) Bool.noConfusion
  have hNew : (db.members.rows ++ [(⟨directChannel a b, a, db.members.ofUsers⟩ : MemberRow)]).any
      (fun m => m.channel = directChannel a b ∧ m.user = b) = false := by
    rw [List.any_append]
    exact Bool.or_eq_false_iff.2 ⟨hNobody b, by simp [hNe]⟩
  obtain ⟨hMember, -⟩ | ⟨-, rfl⟩ := insertMember_exact hSecond hFaults
  · exact absurd (hMember.symm.trans hNew) Bool.noConfusion
  refine ⟨rfl, ?_⟩
  rw [withDirect]
  simp [directRow]

theorem channel?_withDirect (db : Database) (a b id : String) :
    (db.withDirect a b).channel? id =
      (db.channel? id).or (if directChannel a b = id then some (directRow a b) else none) :=
  channel?_append db (directRow a b) id

theorem isMember_withDirect (db : Database) (a b id user : String) :
    (db.withDirect a b).isMember id user ↔
      db.isMember id user ∨ id = directChannel a b ∧ (user = a ∨ user = b) := by
  rw [isMember, isMember, withDirect, List.any_append, Bool.or_eq_true]
  refine or_congr .rfl ?_
  simp only [List.any_cons, List.any_nil, Bool.or_false, Bool.or_eq_true, decide_eq_true_iff]
  rw [and_or_left, @eq_comm _ id, @eq_comm _ user, @eq_comm _ user]

/-! ### What lasts -/

/-- The channels of a store are still there, and its inserts still do not go wrong. -/
structure Lasts (db db' : Database) : Prop where
  faults : db'.faults = {}
  channels : ∀ id row, db.channel? id = some row → db'.channel? id = some row

end Store.Database

theorem Action.lasts_perform (action : Action) (r : Relay) (hFaults : r.store.database.faults = {}) :
    r.store.database.Lasts (action.perform r).2.store.database := by
  cases action with
  | call c =>
    obtain ⟨hGrows, hSame⟩ := (Store.statements_of_call r.store c).grow (by rw [hFaults])
    exact ⟨hSame.trans hFaults, fun _ _ => hGrows.channel?⟩
  | _ => exact ⟨hFaults, fun _ _ hRow => hRow⟩

end ChatRelay
