import ChatRelay.Proofs.History
import ChatRelay.Proofs.Permanence
import ChatRelay.Proofs.Sending
import ChatRelay.Proofs.Store.Integrity

/-! The order of posts.  The posts of one relay, one after another, get times that never go back, whatever
the wall clock does, and their rows are stored in that order.  So the rows of these posts stand in a
channel's record as they were posted, whatever other rows stand between them, and what a history shows of
them is the end of what the cursor admits: nothing is missing after the first that is shown. -/

namespace ChatRelay

open Operation (runOn runOn_bind_of_ok runOn_bind_eq_ok)
open Relation (ReflTransGen)
open Store (Database MessageRow)
open Store.Database (Change Changes timeLe)

/-! ### Rows that stay -/

/-- Rows are followed by others, none of which has the id of one of them. -/
def Followed (rows rows' : List MessageRow) : Prop :=
  ∃ more, rows' = rows ++ more ∧ ∀ m ∈ more, ∀ n ∈ rows, n.id ≠ m.id

theorem Followed.refl (rows : List MessageRow) : Followed rows rows :=
  ⟨[], (List.append_nil rows).symm, by simp⟩

theorem Followed.trans {rows rows' rows'' : List MessageRow} (h : Followed rows rows')
    (h' : Followed rows' rows'') : Followed rows rows'' := by
  obtain ⟨more, rfl, hNew⟩ := h
  obtain ⟨more', rfl, hNew'⟩ := h'
  refine ⟨more ++ more', List.append_assoc .., fun m hm n hn => ?_⟩
  obtain hm | hm := List.mem_append.1 hm
  · exact hNew m hm n hn
  · exact hNew' m hm n (List.mem_append_left _ hn)

theorem Followed.subset {rows rows' : List MessageRow} (h : Followed rows rows') : rows ⊆ rows' := by
  obtain ⟨more, rfl, -⟩ := h
  exact List.subset_append_left rows more

theorem Store.Database.Changes.followed {db db' : Database} (h : Changes db db') :
    Followed db.messages db'.messages := by
  induction h with
  | refl => exact .refl _
  | tail _ hChange ih =>
    refine ih.trans ?_
    cases hChange with
    | edit hEdit =>
      rw [Database.Edits.messages (.single hEdit)]
      exact .refl _
    | message m hId => exact ⟨[m], rfl, by simpa using hId⟩

theorem Store.Database.Statements.followed {db db' : Database} (h : Database.Statements db db') :
    Followed db.messages db'.messages := by
  induction h with
  | refl => exact .refl _
  | tail _ hStatement ih => exact ih.trans hStatement.changes.followed

/-- Whatever happens at a site, the rows of its messages stay and are followed by new ones. -/
theorem Site.Step.followed {s s' : Site} (h : Step s s') :
    Followed s.content.messages s'.content.messages := by
  cases h with
  | opens c hStart =>
    obtain ⟨db, hOpen, rfl⟩ := Config.start_ok hStart
    exact (Store.File.openFile_ok hOpen).2.followed
  | refuses c hStart =>
    have hSame := Store.File.content_of_openFile_error (Config.start_error hStart)
    show Followed _ (Store.File.content _).messages
    rw [hSame]
    exact .refl _
  | closes r => exact .refl _
  | runs t r => exact (t.statements_of_run r).followed
  | poisons r => exact .refl _
  | faults r f hStay => exact .refl _

theorem Site.followed_of_steps {s s' : Site} (h : ReflTransGen Step s s') :
    Followed s.content.messages s'.content.messages := by
  induction h with
  | refl => exact .refl _
  | tail _ hStep ih => exact ih.trans hStep.followed

/-! ### Rows among others -/

/-- Of these rows, those that are among `sent` are all of `sent`, each once and in its order. -/
def Carries (rows sent : List MessageRow) : Prop :=
  rows.filter (· ∈ sent) = sent

theorem Carries.nil (rows : List MessageRow) : Carries rows [] := by
  simp [Carries]

theorem Carries.subset {rows sent : List MessageRow} (h : Carries rows sent) : sent ⊆ rows := by
  rw [← h]
  exact List.filter_subset_self _

theorem Carries.followed {rows rows' sent : List MessageRow} (h : Carries rows sent)
    (hMore : Followed rows rows') : Carries rows' sent := by
  obtain ⟨more, rfl, hNew⟩ := hMore
  have hNone : more.filter (· ∈ sent) = [] := by
    refine List.filter_eq_nil_iff.2 fun m hm hSent => ?_
    exact hNew m hm m (h.subset (by simpa using hSent)) rfl
  rw [Carries, List.filter_append, h, hNone, List.append_nil]

theorem Carries.concat {rows sent : List MessageRow} {row : MessageRow} (h : Carries rows sent)
    (hNew : ∀ n ∈ rows, n.id ≠ row.id) : Carries (rows ++ [row]) (sent ++ [row]) := by
  have hOld : rows.filter (· ∈ sent ++ [row]) = rows.filter (· ∈ sent) := by
    refine List.filter_congr fun n hn => ?_
    have hNe : n ≠ row := fun hSame => hNew n hn (by rw [hSame])
    simp [hNe]
  rw [Carries, List.filter_append, hOld, h]
  simp

/-- Rows that go up in time stand in the record of their channel as they stand in the store. -/
theorem Carries.filter_record {db : Database} {sent : List MessageRow} (h : Carries db.messages sent)
    (hUp : sent.Pairwise (timeLe · ·)) (channel : String) (before : Option Int64) :
    (db.record channel before).filter (· ∈ sent) =
      sent.filter fun row => row.channel = channel ∧ before.all (fun b => row.timestamp < b) := by
  generalize hAdmits : (fun row : MessageRow =>
    decide (row.channel = channel ∧ before.all (fun b => row.timestamp < b))) = admits
  have hRecord : db.record channel before = (db.messages.filter admits).mergeSort timeLe := by
    rw [← hAdmits]
    rfl
  have hRows : (db.messages.filter admits).filter (· ∈ sent) = sent.filter admits := by
    conv_rhs => rw [← h]
    rw [List.filter_filter, List.filter_filter]
    exact List.filter_congr fun row _ => Bool.and_comm ..
  -- The sort is stable: what goes up already keeps its order.
  have hKept : (sent.filter admits).Sublist (db.record channel before) := by
    rw [hRecord, ← hRows]
    refine List.sublist_mergeSort Database.timeLe_trans Database.timeLe_total ?_ List.filter_sublist
    rw [hRows]
    exact hUp.filter _
  have hSublist : (sent.filter admits).Sublist ((db.record channel before).filter (· ∈ sent)) := by
    have hOwn : (sent.filter admits).filter (· ∈ sent) = sent.filter admits :=
      List.filter_eq_self.2 fun row hRow => by simpa using (List.mem_filter.1 hRow).1
    rw [← hOwn]
    exact hKept.filter _
  -- And it keeps every row, so nothing more of them is in the record.
  have hLength : (sent.filter admits).length = ((db.record channel before).filter (· ∈ sent)).length := by
    rw [← hRows, hRecord]
    exact ((List.mergeSort_perm _ _).symm.filter _).length_eq
  exact (hSublist.eq_of_length hLength).symm

/-- What the end of a record has of these rows is the end of what it could have. -/
theorem Carries.rtake_record {db : Database} {sent : List MessageRow} (h : Carries db.messages sent)
    (hUp : sent.Pairwise (timeLe · ·)) (channel : String) (size : Nat) (before : Option Int64) :
    ((db.record channel before).rtake size).filter (· ∈ sent) <:+
      sent.filter fun row => row.channel = channel ∧ before.all (fun b => row.timestamp < b) := by
  rw [← h.filter_record hUp channel before]
  exact (List.drop_suffix _ _).filter _

/-! ### A post that succeeds -/

variable {r r' : Relay} {sender : String} {req : SendRequest} {fresh : Fresh} {m : Message}

@[simp] theorem Relay.lastStamp_spread (r : Relay) (m : Message) : (r.spread m).lastStamp = r.lastStamp := by
  unfold Relay.spread
  split <;> rfl

/-- A post that succeeds has found its channel, and changed neither the registry nor the times nor the
messages until then. -/
theorem post_runOn_found (h : runOn (post sender req fresh) r = (.ok m, r')) :
    ∃ (channel : String) (r₁ : Relay), (runOn (resolve sender req.destination) r).1 = .ok channel ∧
      r₁.registry = r.registry ∧ r₁.lastStamp = r.lastStamp ∧
      r₁.store.database.messages = r.store.database.messages ∧ r₁.store.poisoned = false ∧
      runOn (postTo sender channel req fresh) r₁ = (.ok m, r') := by
  unfold post at h
  obtain ⟨channel, r₁, hResolve, h⟩ := runOn_bind_eq_ok h
  obtain ⟨kind, r₂, hAuthorize, h⟩ := runOn_bind_eq_ok h
  obtain ⟨hRegistry₁, hTime₁, hRows₁⟩ := runOn_of_browses (resolve_uses sender req.destination) r
  obtain ⟨hRegistry₂, hTime₂, hRows₂⟩ :=
    runOn_of_browses ((authorize_uses sender channel).mono fun _ => .inl) r₁
  have hKept := poisoned_runOn (authorize sender channel) r₁
  have hUsable : r₁.store.poisoned = false := usable_of_authorize_isOk (by rw [hAuthorize]; rfl)
  rw [hResolve] at hRegistry₁ hTime₁ hRows₁
  rw [hAuthorize] at hRegistry₂ hTime₂ hRows₂ hKept
  exact ⟨channel, r₂, by rw [hResolve], hRegistry₂.trans hRegistry₁, hTime₂.trans hTime₁,
    hRows₂.trans hRows₁, hKept.trans hUsable, h⟩

/-- What is left of a post, once its channel is found, stores the message under an id that was free, and
then fans it out. -/
theorem postTo_runOn_ok {channel : String} (hUsable : r.store.poisoned = false)
    (h : runOn (postTo sender channel req fresh) r = (.ok m, r')) :
    m = req.message sender channel fresh.id (max r.lastStamp fresh.wall) ∧
      ∃ db, r.store.database.insertMessage (.ofMessage m) = .ok db ∧
        r' = Relay.spread { r with store.database := db, lastStamp := m.timestamp } m := by
  have hAppend := append_runOn hUsable sender channel req fresh
  dsimp only at hAppend
  cases hInsert : r.store.database.insertMessage
      (.ofMessage (req.message sender channel fresh.id (max r.lastStamp fresh.wall))) with
  | error cause =>
    rw [hInsert] at hAppend
    unfold postTo at h
    rw [Operation.runOn_bind_of_error hAppend] at h
    obtain ⟨hError, -⟩ := Prod.mk.inj h
    contradiction
  | ok db =>
    rw [hInsert] at hAppend
    obtain ⟨hSame, rfl⟩ := Prod.mk.inj (h.symm.trans (postTo_of_append hAppend))
    obtain rfl := Except.ok.inj hSame
    exact ⟨rfl, db, hInsert, rfl⟩

/-- A post that succeeds has made its message of what it was given and of the channel that its
destination names, stored it under an id that was free, and then fanned it out. -/
theorem post_runOn_stores (h : runOn (post sender req fresh) r = (.ok m, r')) :
    (runOn (resolve sender req.destination) r).1 = .ok m.channel ∧
      m = req.message sender m.channel fresh.id (max r.lastStamp fresh.wall) ∧
      (∀ n ∈ r.store.database.messages, n.id ≠ (MessageRow.ofMessage m).id) ∧
      ∃ r₁ : Relay, r₁.registry = r.registry ∧ r₁.lastStamp = m.timestamp ∧
        r₁.store.database.messages = r.store.database.messages ++ [.ofMessage m] ∧ r' = r₁.spread m := by
  obtain ⟨channel, r₁, hResolve, hRegistry, hTime, hRows, hUsable, h⟩ := post_runOn_found h
  obtain ⟨rfl, db, hInsert, rfl⟩ := postTo_runOn_ok hUsable h
  rw [← hTime, ← hRows]
  exact ⟨hResolve, rfl, (Database.insertMessage_ok hInsert).1,
    { r₁ with store.database := db, lastStamp := max r₁.lastStamp fresh.wall }, hRegistry, rfl,
    Database.insertMessage_messages hInsert, rfl⟩

/-! ### The posts of a run -/

/-- A message that was posted, and the time that the wall clock showed then. -/
structure Dated where
  wall : Int64
  message : Message

/-- The message of a post's answer, if it is one. -/
def Dated.ofAnswer (wall : Int64) : Except RelayError Message → List Dated
  | .ok m => [⟨wall, m⟩]
  | .error _ => []

/-- The message that an event posts, if it is a post that succeeds. -/
def Event.dated : Event → Relay → List Dated
  | .post sender req fresh, r => Dated.ofAnswer fresh.wall (runOn (ChatRelay.post sender req fresh) r).1
  | _, _ => []

/-- The messages that a run posts, in order. -/
def Relay.dated (r : Relay) : List Event → List Dated
  | [] => []
  | e :: rest => e.dated r ++ (e.apply r).dated rest

/-- An event posts nothing, or it is a post that succeeds. -/
theorem Event.dated_cases (e : Event) (r : Relay) :
    e.dated r = [] ∨ ∃ sender req fresh m, runOn (ChatRelay.post sender req fresh) r = (.ok m, e.apply r) ∧
      e.dated r = [⟨fresh.wall, m⟩] := by
  cases e with
  | post sender req fresh =>
    cases hAnswer : (runOn (ChatRelay.post sender req fresh) r).1 with
    | error e => exact .inl (by rw [dated, hAnswer, Dated.ofAnswer])
    | ok m =>
      exact .inr ⟨sender, req, fresh, m, Prod.ext hAnswer rfl, by rw [dated, hAnswer, Dated.ofAnswer]⟩
  | _ => exact .inl rfl

/-! ### Their times -/

theorem le_stamp (last wall : Int64) : last ≤ max last wall ∧ wall ≤ max last wall := by
  have hMax : max last wall = if last ≤ wall then wall else last := rfl
  rw [hMax]
  split
  · rename_i hLate
    exact ⟨hLate, Int64.le_refl wall⟩
  · rename_i hEarly
    exact ⟨Int64.le_refl last, Int64.le_of_lt (Int64.not_le.1 hEarly)⟩

/-- The last time given never goes back. -/
theorem Action.lastStamp_le_perform (action : Action) (r : Relay) :
    r.lastStamp ≤ (action.perform r).2.lastStamp := by
  cases action with
  | stamp wall => exact (le_stamp r.lastStamp wall).1
  | _ => exact Int64.le_refl _

theorem Event.lastStamp_le_apply (e : Event) (r : Relay) : r.lastStamp ≤ (e.apply r).lastStamp :=
  e.apply_preserves (P := fun r₁ => r.lastStamp ≤ r₁.lastStamp)
    (fun action r₁ h => Int64.le_trans h (action.lastStamp_le_perform r₁)) (fun _ _ h => h)
    (Int64.le_refl _)

/-- A message that is posted gets a time no earlier than the wall clock's and all given before, and no later
than the last one given. -/
theorem Event.timestamp_of_mem_dated {e : Event} {p : Dated} (h : p ∈ e.dated r) :
    r.lastStamp ≤ p.message.timestamp ∧ p.wall ≤ p.message.timestamp ∧
      p.message.timestamp ≤ (e.apply r).lastStamp := by
  obtain hNone | ⟨sender, req, fresh, m, hRun, hOne⟩ := e.dated_cases r
  · rw [hNone] at h
    contradiction
  rw [hOne] at h
  obtain rfl := List.mem_singleton.1 h
  obtain ⟨-, hMessage, -, r₁, -, hLast, -, hAfter⟩ := post_runOn_stores hRun
  have hTime : m.timestamp = max r.lastStamp fresh.wall := by rw [hMessage]; rfl
  rw [hAfter, Relay.lastStamp_spread, hLast, hTime]
  obtain ⟨hLate, hWall⟩ := le_stamp r.lastStamp fresh.wall
  exact ⟨hLate, hWall, Int64.le_refl _⟩

theorem Relay.timestamp_of_mem_dated {events : List Event} {p : Dated}
    (h : p ∈ r.dated events) : r.lastStamp ≤ p.message.timestamp ∧ p.wall ≤ p.message.timestamp := by
  induction events generalizing r with
  | nil => contradiction
  | cons e rest ih =>
    obtain h | h := List.mem_append.1 h
    · obtain ⟨hLast, hWall, -⟩ := Event.timestamp_of_mem_dated h
      exact ⟨hLast, hWall⟩
    · obtain ⟨hLast, hWall⟩ := ih h
      exact ⟨Int64.le_trans (e.lastStamp_le_apply r) hLast, hWall⟩

theorem Relay.pairwise_dated (r : Relay) (events : List Event) :
    (r.dated events).Pairwise fun p q => p.message.timestamp ≤ q.message.timestamp := by
  induction events generalizing r with
  | nil => exact .nil
  | cons e rest ih =>
    refine List.pairwise_append.2 ⟨?_, ih _, fun p hp q hq => ?_⟩
    · obtain hNone | ⟨sender, req, fresh, m, -, hOne⟩ := e.dated_cases r
      · rw [hNone]
        exact .nil
      · rw [hOne]
        exact List.pairwise_singleton ..
    · exact Int64.le_trans (Event.timestamp_of_mem_dated hp).2.2 (timestamp_of_mem_dated hq).1

/-! ### Their rows -/

theorem Event.followed_apply (e : Event) (r : Relay) :
    Followed r.store.database.messages (e.apply r).store.database.messages :=
  e.apply_preserves (P := fun r₁ => Followed r.store.database.messages r₁.store.database.messages)
    (fun action r₁ h => h.trans (action.changes_perform r₁).followed) (fun _ _ h => h) (.refl _)

theorem Event.carries_apply {sent : List MessageRow} (e : Event)
    (h : Carries r.store.database.messages sent) :
    Carries (e.apply r).store.database.messages (sent ++ (e.dated r).map fun p => .ofMessage p.message) := by
  obtain hNone | ⟨sender, req, fresh, m, hRun, hOne⟩ := e.dated_cases r
  · rw [hNone, List.map_nil, List.append_nil]
    exact h.followed (e.followed_apply r)
  · obtain ⟨-, -, hNew, r₁, -, -, hRows, hAfter⟩ := post_runOn_stores hRun
    rw [hAfter, Relay.store_spread, hRows, hOne]
    exact h.concat hNew

theorem Relay.carries_after {sent : List MessageRow} {events : List Event}
    (h : Carries r.store.database.messages sent) :
    Carries (r.after events).store.database.messages
      (sent ++ (r.dated events).map fun p => .ofMessage p.message) := by
  induction events generalizing r sent with
  | nil =>
    rw [dated, List.map_nil, List.append_nil]
    exact h
  | cons e rest ih =>
    rw [dated, List.map_append, ← List.append_assoc]
    exact ih (e.carries_apply h)

/-! ### A later history -/

/-- A stored message reads back as it was. -/
theorem Store.MessageRow.message?_ofMessage (m : Message) : (ofMessage m).message? = some m := by
  unfold message? ofMessage
  rw [Uuid.ofString?_toString, if_pos (Int.natCast_nonneg m.kind.code), Int.toNat_natCast,
    MessageKind.ofCode?_code]

/-- The message is one of the channel, and older than the cursor if there is one. -/
def Message.isDue (channel : String) (before : Option Int64) (m : Message) : Bool :=
  m.channel = channel ∧ before.all (fun b => m.timestamp < b)

theorem filter_map_ofMessage (posted : List Message) (channel : String) (before : Option Int64) :
    ((posted.map MessageRow.ofMessage).filter fun row =>
        row.channel = channel ∧ before.all (fun b => row.timestamp < b)) =
      (posted.filter (Message.isDue channel before)).map MessageRow.ofMessage :=
  List.filter_map

theorem filterMap_map_ofMessage (messages : List Message) :
    (messages.map MessageRow.ofMessage).filterMap MessageRow.message? = messages := by
  have hRead : MessageRow.message? ∘ MessageRow.ofMessage = some := by
    funext m
    rw [Function.comp_apply, MessageRow.message?_ofMessage]
  rw [List.filterMap_map, hRead, List.filterMap_some]

/-- No other row has, in whatever spelling, the id of one of the messages. -/
def Store.Database.Owns (db : Database) (messages : List Message) : Prop :=
  ∀ row ∈ db.messages, ∀ m ∈ messages, (row.message?.map (·.id)) = some m.id → row = .ofMessage m

/-- Where the messages have their ids for themselves, they are told from others by what is read. -/
theorem Store.Database.Owns.filter_filterMap {db : Database} {posted : List Message} (h : db.Owns posted)
    {rows : List MessageRow} (hRows : rows ⊆ db.messages) :
    (rows.filterMap MessageRow.message?).filter (· ∈ posted) =
      (rows.filter (· ∈ posted.map MessageRow.ofMessage)).filterMap MessageRow.message? := by
  rw [List.filter_filterMap, List.filterMap_filter]
  refine List.filterMap_congr fun row hRow => ?_
  by_cases hPosted : row ∈ posted.map MessageRow.ofMessage
  · obtain ⟨m, hm, rfl⟩ := List.mem_map.1 hPosted
    rw [if_pos (by simpa using hPosted), MessageRow.message?_ofMessage]
    simp [hm]
  · rw [if_neg (by simpa using hPosted)]
    cases hRead : row.message? with
    | none => rfl
    | some m =>
      have hOther : m ∉ posted := fun hm =>
        hPosted (List.mem_map.2 ⟨m, hm, (h row (hRows hRow) m hm (by rw [hRead]; rfl)).symm⟩)
      simp [Option.filter, hOther]

theorem messages_of_history {ceiling : Nat} {user token : String} {limit : Option Nat}
    {before : Option Int64} {messages : List Message}
    (h : runOn (history ceiling user token limit before) r = (.ok messages, r')) :
    r'.store.database.messages = r.store.database.messages := by
  obtain ⟨-, -, hSame⟩ := runOn_of_browses (history_uses ceiling user token limit before) r
  rwa [h] at hSame

/-- History keeps the order of posts, whatever the wall clock does.  In a run of one relay, from any store and
with anything else that happens between the posts, the times of the messages that are posted never go back,
and none is earlier than the wall clock's.  Whatever happens later, also over a restart from the file, the
posted messages whose rows a history has are an end of those of its channel that the cursor admits: it shows
them in the order of the posts, and none is missing after the first.  They are all posted messages that it
shows, as long as no other row has the id of one. -/
theorem history_keeps_post_order (r : Relay) (events : List Event) :
    let posted := (r.dated events).map (·.message)
    posted.Pairwise (fun m n => m.timestamp ≤ n.timestamp) ∧
      (∀ p ∈ r.dated events, p.wall ≤ p.message.timestamp) ∧
      ∀ {r' r'' : Relay}, ReflTransGen Site.Step (.serving (r.after events)) (.serving r') →
        ∀ {ceiling : Nat} {user token : String} {limit : Option Nat} {before : Option Int64}
          {messages : List Message},
          runOn (history ceiling user token limit before) r' = (.ok messages, r'') →
          ∃ channel, (runOn (resolve user token) r').1 = .ok channel ∧
            let rows := (r''.store.database.record channel before).rtake (pageSize ceiling limit)
            messages = rows.filterMap MessageRow.message? ∧
            ∃ kept, kept <:+ posted.filter (Message.isDue channel before) ∧
              rows.filter (· ∈ posted.map MessageRow.ofMessage) = kept.map MessageRow.ofMessage ∧
              kept.Sublist messages ∧
              (r''.store.database.Owns posted → messages.filter (· ∈ posted) = kept) := by
  intro posted
  refine ⟨List.pairwise_map.2 (r.pairwise_dated events),
    fun p hp => (Relay.timestamp_of_mem_dated hp).2, ?_⟩
  intro r' r'' hLater ceiling user token limit before messages hHistory
  have hSame := messages_of_history hHistory
  obtain ⟨channel, hResolve, -, rfl⟩ := history_runOn_eq_ok.1 hHistory
  refine ⟨channel, by rw [hResolve], ?_⟩
  intro rows
  have hCarries : Carries r''.store.database.messages (posted.map MessageRow.ofMessage) := by
    have hStart : Carries r.store.database.messages [] := .nil _
    rw [hSame, List.map_map]
    exact (Relay.carries_after hStart).followed (Site.followed_of_steps hLater)
  have hUp : (posted.map MessageRow.ofMessage).Pairwise (timeLe · ·) :=
    List.pairwise_map.2 (List.pairwise_map.2 ((r.pairwise_dated events).imp decide_eq_true))
  have hEnd := hCarries.rtake_record hUp channel (pageSize ceiling limit) before
  rw [filter_map_ofMessage, List.suffix_map_iff] at hEnd
  obtain ⟨kept, hKept, hRows⟩ := hEnd
  have hRead : kept = (rows.filter (· ∈ posted.map MessageRow.ofMessage)).filterMap MessageRow.message? := by
    rw [hRows, filterMap_map_ofMessage]
  refine ⟨rfl, kept, hKept, hRows, ?_, fun hOwns => ?_⟩
  · rw [hRead]
    exact List.filter_sublist.filterMap _
  · have hStored : rows ⊆ r''.store.database.messages := fun row hRow =>
      (Database.mem_record.1 ((List.drop_sublist _ _).mem hRow)).1
    rw [hRead]
    exact hOwns.filter_filterMap hStored

/-- Two posts, the second by a clock that went back, with a row between them that is no message; then a start
of the relay from the same file, and a history with room for one. -/
theorem history_keeps_post_order_clock_back :
    let hi : SendRequest := ⟨"general", [104, 105], [], [], .text⟩
    let events : List Event := [.post "ann" hi ⟨.zero, 5⟩,
      .edit (.insertMessage ⟨"blot", "general", "cat", 5, 9, [], [], []⟩),
      .post "bob" hi ⟨⟨List.replicate 32 1, rfl⟩, 3⟩]
    let r : Relay := .ofDatabase .fresh 1
    let posted := (r.dated events).map (·.message)
    let later : Relay := .ofDatabase (r.after events).store.database 256
    posted.map (·.timestamp) = [5, 5] ∧ posted.Pairwise (fun m n => m.timestamp ≤ n.timestamp) ∧
      ∃ messages, runOn (history 100 "cat" "general" (some 1) none) later = (.ok messages, later) ∧
        messages.filter (· ∈ posted) <:+ posted.filter (Message.isDue "general" none) := by
  intro hi events r posted later
  have hSteps : ReflTransGen Site.Step (.serving (r.after events)) (.serving later) :=
    .head (.closes _) (.single (.opens {} rfl))
  have hChannel : later.store.database.channel? "general" =
      some ⟨"general", "General", some "public", true⟩ := by
    decide +kernel
  have hResolve := resolve_runOn (r := later) rfl (by decide) hChannel "cat"
  have hRun := history_runOn_of_resolve hResolve (by decide +kernel) 100 (some 1) none
  have hOwns : later.store.database.Owns posted := by
    unfold Database.Owns
    decide +kernel
  obtain ⟨hUp, -, hHistory⟩ := history_keeps_post_order r events
  obtain ⟨channel, hNamed, -, kept, hKept, -, -, hShown⟩ := hHistory hSteps hRun
  obtain rfl : "general" = channel := Except.ok.inj ((congrArg Prod.fst hResolve).symm.trans hNamed)
  exact ⟨by decide +kernel, hUp, _, hRun, hShown hOwns ▸ hKept⟩

end ChatRelay
