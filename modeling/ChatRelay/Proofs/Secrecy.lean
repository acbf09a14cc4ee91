import ChatRelay.Proofs.Blind
import ChatRelay.Proofs.Store.Pairs
import ChatRelay.Proofs.Store.Windows
import ChatRelay.Proofs.Visibility

/-! What a user learns of a channel that they may not see: nothing.  Two relays that are equal but for the
messages of that channel answer the user's operations alike, queue the same frames, and stay equal but for
these messages.  `Agrees` says this of one operation; it is kept by `bind`, operations that do not touch the
messages have it for nothing, and the two that do, a window and an insert, are for a channel that the user
was found to see. -/

namespace ChatRelay

open Operation (Uses OnSuccess call runOn runOn_bind_of_ok runOn_bind_of_error runOn_call_of_apply
  runOn_call_of_poisoned)
open Store (Database MessageRow)

/-! ### Hidden channels -/

namespace Store.Database

/-- The channel is there, and the user may not see it. -/
structure Hidden (db : Database) (user channel : String) : Prop where
  present : (db.channel? channel).isSome
  unseen : db.sees user channel = false

variable {db db' : Database} {user channel other : String}

/-- Only the channel and the user's membership matter to whether it is hidden. -/
theorem Hidden.frame (h : db.Hidden user channel) (hChannel : db'.channel? channel = db.channel? channel)
    (hMember : db'.isMember channel user = db.isMember channel user) : db'.Hidden user channel := by
  refine ⟨hChannel ▸ h.present, ?_⟩
  have hUnseen := h.unseen
  unfold sees kind? kindText? at hUnseen ⊢
  rw [hChannel, hMember]
  exact hUnseen

theorem insertChannel_other {id name kind : String} {created : Bool}
    (h : db.insertChannel id name kind = .ok (created, db')) (hPresent : (db.channel? other).isSome) :
    db'.channel? other = db.channel? other ∧ db'.members = db.members := by
  obtain ⟨-, rfl, -⟩ | ⟨-, -, rfl⟩ := insertChannel_ok h
  · exact ⟨rfl, rfl⟩
  · exact ⟨(channel?_append db _ other).trans (Option.or_of_isSome hPresent), rfl⟩

theorem insertMember_other {id member : String} (h : db.insertMember id member = .ok db')
    (hOther : other ≠ id) (user : String) :
    db'.channel? other = db.channel? other ∧ db'.isMember other user = db.isMember other user := by
  obtain ⟨rfl, -⟩ | ⟨-, -, -, rfl⟩ := insertMember_ok h
  · exact ⟨rfl, rfl⟩
  · refine ⟨rfl, ?_⟩
    rw [isMember, isMember, List.any_append, List.any_cons, List.any_nil, Bool.or_false]
    simp [hOther.symm]

theorem Hidden.findOrCreateDirect (h : db.Hidden user channel) {id a b : String} {created : Bool}
    (hOk : db.findOrCreateDirect id a b = .ok (created, db')) : db'.Hidden user channel := by
  obtain ⟨-, rfl⟩ | ⟨hAbsent, -, -, db₁, db₂, hOpen, hFirst, hSecond⟩ := findOrCreateDirect_ok hOk
  · exact h
  have hOther : channel ≠ id := by
    rintro rfl
    have hPresent := h.present
    rw [Option.isNone_iff_eq_none.1 hAbsent] at hPresent
    contradiction
  obtain ⟨hChannel₁, hMembers₁⟩ := insertChannel_other hOpen h.present
  obtain ⟨hChannel₂, hMember₂⟩ := insertMember_other hFirst hOther user
  obtain ⟨hChannel₃, hMember₃⟩ := insertMember_other hSecond hOther user
  refine h.frame (hChannel₃.trans (hChannel₂.trans hChannel₁)) (hMember₃.trans (hMember₂.trans ?_))
  rw [isMember, isMember, hMembers₁]

/-- A message for another channel does not show a hidden one, even if it takes its own channel away. -/
theorem Hidden.insertMessage (h : db.Hidden user channel) {m : MessageRow}
    (hOk : db.insertMessage m = .ok db') (hOther : m.channel ≠ channel) : db'.Hidden user channel := by
  obtain ⟨-, db₁, ⟨-, rfl⟩ | ⟨-, rfl⟩, rfl⟩ := insertMessage_eq_ok hOk
  · exact h.frame rfl rfl
  · obtain ⟨hChannel, hMember⟩ := db.removeChannel_other user hOther.symm
    exact h.frame hChannel hMember

/-! ### Stores that are equal but for the messages of a channel -/

/-- The rows of a channel. -/
def rowsOf (db : Database) (channel : String) : List MessageRow :=
  db.messages.filter (·.channel = channel)

/-- The rows of all other channels. -/
def rowsBeside (db : Database) (channel : String) : List MessageRow :=
  db.messages.filter (·.channel ≠ channel)

variable {rows : List MessageRow}

theorem window_withMessages (hRows : (db.withMessages rows).rowsBeside channel = db.rowsBeside channel)
    (hOther : other ≠ channel) (limit : Nat) (before : Option Int64) :
    (db.withMessages rows).window other limit before = db.window other limit before := by
  have hRecord (d : Database) : d.record other before =
      ((d.rowsBeside channel).filter fun m =>
        m.channel = other ∧ before.all (fun b => m.timestamp < b)).mergeSort timeLe := by
    rw [record, rowsBeside, List.filter_filter]
    congr 1
    refine List.filter_congr fun m _ => ?_
    by_cases hChannel : m.channel = other
    · simp [hChannel, hOther]
    · simp [hChannel]
  rw [window_eq, window_eq, hRecord, hRecord, hRows]

/-- A message that is new to the rows of a channel is stored in another channel alike, whatever these rows
are. -/
theorem insertMessage_withMessages
    (hRows : (db.withMessages rows).rowsBeside channel = db.rowsBeside channel) {m : MessageRow}
    (hNew : ∀ n ∈ db.rowsOf channel, n.id ≠ m.id)
    (hNew' : ∀ n ∈ (db.withMessages rows).rowsOf channel, n.id ≠ m.id) :
    (db.withMessages rows).insertMessage m =
      (db.insertMessage m).map (·.withMessages (rows ++ [m])) := by
  have hStored (d : Database) (hNew : ∀ n ∈ d.rowsOf channel, n.id ≠ m.id) :
      d.messages.any (·.id = m.id) = (d.rowsBeside channel).any (·.id = m.id) := by
    rw [rowsBeside, List.any_filter, Bool.eq_iff_iff, List.any_eq_true, List.any_eq_true]
    refine exists_congr fun n => and_congr_right fun hMem => ?_
    by_cases hChannel : n.channel = channel
    · have hOwn : n ∈ d.rowsOf channel := List.mem_filter.2 ⟨hMem, by simpa using hChannel⟩
      simp [hNew n hOwn]
    · simp [hChannel]
  have hSame : (db.withMessages rows).messages.any (·.id = m.id) = db.messages.any (·.id = m.id) := by
    rw [hStored _ hNew', hStored _ hNew, hRows]
  have hFaults : (db.withMessages rows).faults = db.faults := rfl
  unfold Database.insertMessage
  rw [hSame, hFaults]
  simp only [apply_ite (Except.map _)]
  cases db.faults.vanishChannels <;> rfl

end Store.Database

/-! ### Two relays -/

/-- Two relays are equal but for the messages of one channel. -/
inductive Relay.EqualBeside (channel : String) (r : Relay) : Relay → Prop
  | intro (rows : List MessageRow)
      (hRows : (r.store.database.withMessages rows).rowsBeside channel =
        r.store.database.rowsBeside channel) :
      EqualBeside channel r (r.withMessages rows)

/-- Two relays are equal but for the messages of a channel that is hidden from the user, and these are
`own` and `own'`. -/
structure Apart (user channel : String) (own own' : List MessageRow) (r r' : Relay) : Prop where
  equal : r.EqualBeside channel r'
  hidden : r.store.database.Hidden user channel
  own : r.store.database.rowsOf channel = own
  own' : r'.store.database.rowsOf channel = own'

variable {user channel other : String} {own own' : List MessageRow} {α β : Type}

/-- The operation cannot tell apart two relays that differ in the messages of a hidden channel; it keeps
them so, and if it succeeds it is with one of `ends`. -/
def Agrees (user channel : String) (own own' : List MessageRow) (ends : α → Prop) (op : Operation α) :
    Prop :=
  ∀ r r', Apart user channel own own' r r' →
    (runOn op r').1 = (runOn op r).1 ∧ OnSuccess ends (runOn op r).1 ∧
      Apart user channel own own' (runOn op r).2 (runOn op r').2

namespace Agrees

variable {ends : α → Prop}

theorem pure {a : α} (h : ends a) : Agrees user channel own own' ends (pure a) :=
  fun _ _ hApart => ⟨rfl, h, hApart⟩

theorem bind {op : Operation α} {f : α → Operation β} {ends' : β → Prop}
    (h : Agrees user channel own own' ends op)
    (hNext : ∀ a, ends a → Agrees user channel own own' ends' (f a)) :
    Agrees user channel own own' ends' (op >>= f) := by
  intro r r' hApart
  obtain ⟨hSame, hEnds, hAfter⟩ := h r r' hApart
  rcases hOp : runOn op r with ⟨result, r₁⟩
  rcases hOp' : runOn op r' with ⟨result', r₁'⟩
  rw [hOp] at hSame hEnds hAfter
  rw [hOp'] at hSame hAfter
  obtain rfl : result' = result := hSame
  cases result' with
  | ok a =>
    rw [runOn_bind_of_ok hOp, runOn_bind_of_ok hOp']
    exact hNext a hEnds r₁ r₁' hAfter
  | error e =>
    rw [runOn_bind_of_error hOp, runOn_bind_of_error hOp']
    exact ⟨rfl, trivial, hAfter⟩

end Agrees

/-! ### Operations that do not touch the messages -/

namespace Action

/-- The action does not touch the messages, and shows no channel that is there to anybody new. -/
def IsDiscreet (action : Action) : Prop :=
  action.Finds ∨ action.OnRegistry ∨ ∃ wall, action = .stamp wall

theorem IsDiscreet.isBlind {action : Action} (h : action.IsDiscreet) : action.IsBlind := by
  obtain h | h | ⟨wall, rfl⟩ := h
  · exact h.isBlind
  · cases action <;> trivial
  · trivial

theorem IsDiscreet.hidden_perform {action : Action} (h : action.IsDiscreet) {r : Relay}
    (hHidden : r.store.database.Hidden user channel) :
    (action.perform r).2.store.database.Hidden user channel := by
  obtain (h | ⟨a, b, -, rfl⟩) | h | ⟨wall, rfl⟩ := h
  · rw [perform_of_isRead h.1]
    exact hHidden
  · show (r.store.call (.findOrCreateDirect (directChannel a b) a b)).2.database.Hidden user channel
    unfold Store.call
    split
    · exact hHidden
    split
    · rename_i hOk
      exact hHidden.findOrCreateDirect hOk
    · exact hHidden
  · rw [store_perform_of_onRegistry h]
    exact hHidden
  · exact hHidden

end Action

theorem agrees_of_discreet {op : Operation α} (h : Uses Action.IsDiscreet op) :
    Agrees user channel own own' (fun _ => True) op := by
  rintro r _ ⟨⟨rows, hRows⟩, hHidden, hOwn, hOwn'⟩
  have hBlind : Uses Action.IsBlind op := h.mono fun _ h => h.isBlind
  have hMessages := Operation.messages_runOn hBlind r
  have hAfter := h.runOn (P := fun r => r.store.database.Hidden user channel)
    (fun action r h hHidden => h.hidden_perform hHidden) hHidden
  rw [Operation.runOn_withMessages hBlind]
  refine ⟨rfl, ?_, ⟨⟨rows, ?_⟩, hAfter, ?_, hOwn'⟩⟩
  · cases (runOn op r).1 <;> trivial
  · show rows.filter (·.channel ≠ channel) =
      (runOn op r).2.store.database.messages.filter (·.channel ≠ channel)
    rw [hMessages]
    exact hRows
  · rw [Database.rowsOf, hMessages]
    exact hOwn

theorem agrees_of_finds {op : Operation α} (h : Uses Action.Finds op) :
    Agrees user channel own own' (fun _ => True) op :=
  agrees_of_discreet (h.mono fun _ => .inl)

/-- A channel that the user is found to see is not the hidden one. -/
theorem authorize_agrees (user channel other : String) (own own' : List MessageRow) :
    Agrees user channel own own' (fun _ => other ≠ channel) (authorize user other) := by
  intro r r' hApart
  obtain ⟨hSame, -, hAfter⟩ :=
    agrees_of_finds ((authorize_looks user other).mono fun _ => .inl) r r' hApart
  refine ⟨hSame, ?_, hAfter⟩
  cases hResult : (runOn (authorize user other) r).1 with
  | error e => trivial
  | ok kind =>
    rintro rfl
    have hUsable : r.store.poisoned = false := usable_of_authorize_isOk (by rw [hResult]; rfl)
    rw [authorize_runOn hUsable, Database.access] at hResult
    split at hResult
    · rw [if_neg (by simp [hApart.hidden.unseen])] at hResult
      contradiction
    · contradiction

/-! ### The messages of other channels -/

theorem messages_agrees (hOther : other ≠ channel) (limit : Nat) (before : Option Int64) :
    Agrees user channel own own' (fun _ => True) (call (.messages other limit before)) := by
  intro r r' hApart
  obtain ⟨rows, hRows⟩ := hApart.equal
  have hPoisoned' := r.poisoned_withMessages rows
  cases hPoisoned : r.store.poisoned with
  | true =>
    rw [runOn_call_of_poisoned _ hPoisoned, runOn_call_of_poisoned _ (hPoisoned'.trans hPoisoned)]
    exact ⟨rfl, trivial, hApart⟩
  | false =>
    have hWindow := Database.window_withMessages hRows hOther limit before
    have hRun : runOn (call (.messages other limit before)) r =
        (.ok (r.store.database.window other limit before), r) := runOn_call_of_apply hPoisoned rfl
    have hRun' : runOn (call (.messages other limit before)) (r.withMessages rows) =
        (.ok (r.store.database.window other limit before), r.withMessages rows) := by
      rw [← hWindow]
      exact runOn_call_of_apply (hPoisoned'.trans hPoisoned) rfl
    rw [hRun, hRun']
    exact ⟨rfl, trivial, hApart⟩

theorem insertMessage_agrees {m : MessageRow} (hOther : m.channel ≠ channel)
    (hNew : ∀ n ∈ own, n.id ≠ m.id) (hNew' : ∀ n ∈ own', n.id ≠ m.id) :
    Agrees user channel own own' (fun _ => True) (call (.insertMessage m)) := by
  intro r r' hApart
  obtain ⟨rows, hRows⟩ := hApart.equal
  have hPoisoned' := r.poisoned_withMessages rows
  cases hPoisoned : r.store.poisoned with
  | true =>
    rw [runOn_call_of_poisoned _ hPoisoned, runOn_call_of_poisoned _ (hPoisoned'.trans hPoisoned)]
    exact ⟨rfl, trivial, hApart⟩
  | false =>
    have hRun := Operation.runOn_insertMessage hPoisoned m
    have hRun' := Operation.runOn_insertMessage (hPoisoned'.trans hPoisoned) m
    rw [Relay.database_withMessages, Database.insertMessage_withMessages hRows
      (hApart.own.symm ▸ hNew) (hApart.own'.symm ▸ hNew')] at hRun'
    cases hStored : r.store.database.insertMessage m with
    | error cause =>
      rw [hStored] at hRun hRun'
      rw [hRun, hRun']
      exact ⟨rfl, trivial, hApart⟩
    | ok database =>
      rw [hStored] at hRun hRun'
      rw [hRun, hRun']
      have hMessages := Database.insertMessage_messages hStored
      have hOwnRows (l : List MessageRow) :
          (l ++ [m]).filter (·.channel = channel) = l.filter (·.channel = channel) := by
        simp [hOther]
      have hRowsBeside (l : List MessageRow) :
          (l ++ [m]).filter (·.channel ≠ channel) = l.filter (·.channel ≠ channel) ++ [m] := by
        simp [hOther]
      refine ⟨rfl, trivial, ⟨⟨rows ++ [m], ?_⟩, hApart.hidden.insertMessage hStored hOther, ?_, ?_⟩⟩
      · show (rows ++ [m]).filter (·.channel ≠ channel) = database.messages.filter (·.channel ≠ channel)
        rw [hMessages, hRowsBeside, hRowsBeside]
        exact congrArg (· ++ [m]) hRows
      · rw [Database.rowsOf, hMessages, hOwnRows]
        exact hApart.own
      · show (rows ++ [m]).filter (·.channel = channel) = own'
        rw [hOwnRows]
        exact hApart.own'

/-! ### What a user asks for -/

theorem history_agrees (ceiling : Nat) (user token : String) (limit : Option Nat) (before : Option Int64) :
    Agrees user channel own own' (fun _ => True) (history ceiling user token limit before) := by
  refine .bind (agrees_of_finds (resolve_finds user token)) fun other _ => ?_
  refine .bind (authorize_agrees user channel other own own') fun _ hOther => ?_
  exact .bind (messages_agrees hOther _ before) fun _ _ => .pure trivial

theorem append_agrees (hOther : other ≠ channel) (sender : String) (req : SendRequest) {fresh : Fresh}
    (hNew : ∀ n ∈ own, n.id ≠ fresh.id.toString) (hNew' : ∀ n ∈ own', n.id ≠ fresh.id.toString) :
    Agrees user channel own own' (fun _ => True) (append sender other req fresh) := by
  refine .bind (agrees_of_discreet (.perform (.inr (.inr ⟨_, rfl⟩)))) fun time _ => ?_
  exact .bind (insertMessage_agrees hOther hNew hNew') fun _ _ => .pure trivial

theorem broadcast_agrees (m : Message) :
    Agrees user channel own own' (fun _ => True) (Operation.attempt (broadcast m)) := by
  refine agrees_of_discreet (.attempt ((broadcast_looks m).mono fun action h => ?_))
  exact h.imp .inl fun h => .inl h.onRegistry

theorem post_agrees (user : String) (req : SendRequest) {fresh : Fresh}
    (hNew : ∀ n ∈ own, n.id ≠ fresh.id.toString) (hNew' : ∀ n ∈ own', n.id ≠ fresh.id.toString) :
    Agrees user channel own own' (fun _ => True) (post user req fresh) := by
  refine .bind (agrees_of_finds (resolve_finds user req.destination)) fun other _ => ?_
  refine .bind (authorize_agrees user channel other own own') fun _ hOther => ?_
  refine .bind (append_agrees hOther user req hNew hNew') fun m _ => ?_
  exact .bind (broadcast_agrees m) fun _ _ => .pure trivial

theorem Move.agrees (user channel : String) (m : Move)
    (hIds : ∀ req fresh, m = .post req fresh →
      (∀ n ∈ own, n.id ≠ fresh.id.toString) ∧ ∀ n ∈ own', n.id ≠ fresh.id.toString) :
    Agrees user channel own own' (fun _ => True) (m.operation user) := by
  cases m with
  | resolve token => exact .bind (agrees_of_finds (resolve_finds user token)) fun _ _ => .pure trivial
  | history ceiling token limit before =>
    exact .bind (history_agrees ceiling user token limit before) fun _ _ => .pure trivial
  | listChannels =>
    exact .bind (agrees_of_finds ((listChannels_looks user).mono fun _ => .inl)) fun _ _ => .pure trivial
  | listMembers other =>
    exact .bind (agrees_of_finds ((listMembers_looks user other).mono fun _ => .inl)) fun _ _ =>
      .pure trivial
  | createDirect target =>
    exact .bind (agrees_of_finds (createDirect_finds user target)) fun _ _ => .pure trivial
  | post req fresh =>
    obtain ⟨hNew, hNew'⟩ := hIds req fresh rfl
    exact .bind (post_agrees user req hNew hNew') fun _ _ => .pure trivial

/-- A user asks for one thing after another.  After each they have its answer, and the connections of the
registry have their frames. -/
def Relay.play (user : String) : List Move → Relay → List (Except RelayError Reply × Registry) × Relay
  | [], r => ([], r)
  | m :: rest, r =>
    let (answer, r₁) := (m.operation user).runOn r
    let (seen, r₂) := play user rest r₁
    ((answer, r₁.registry) :: seen, r₂)

theorem Relay.play_cons (user : String) (m : Move) (rest : List Move) (r : Relay) :
    r.play user (m :: rest) =
      ((((m.operation user).runOn r).1, ((m.operation user).runOn r).2.registry) ::
          (((m.operation user).runOn r).2.play user rest).1,
        (((m.operation user).runOn r).2.play user rest).2) :=
  rfl

theorem Relay.EqualBeside.registry_eq {r r' : Relay} (h : r.EqualBeside channel r') :
    r'.registry = r.registry := by
  obtain ⟨rows, -⟩ := h
  rfl

theorem Apart.play {r r' : Relay} (h : Apart user channel own own' r r') {moves : List Move}
    (hIds : ∀ req fresh, Move.post req fresh ∈ moves →
      (∀ n ∈ own, n.id ≠ fresh.id.toString) ∧ ∀ n ∈ own', n.id ≠ fresh.id.toString) :
    (r'.play user moves).1 = (r.play user moves).1 ∧
      Apart user channel own own' (r.play user moves).2 (r'.play user moves).2 := by
  induction moves generalizing r r' with
  | nil => exact ⟨rfl, h⟩
  | cons m rest ih =>
    have hMove := m.agrees user channel fun req fresh hPost => hIds req fresh (by simp [hPost])
    obtain ⟨hAnswer, -, hAfter⟩ := hMove r r' h
    obtain ⟨hSeen, hEnd⟩ := ih hAfter fun req fresh hMem => hIds req fresh (List.mem_cons_of_mem _ hMem)
    rw [Relay.play_cons, Relay.play_cons, hAnswer, hAfter.equal.registry_eq, hSeen]
    exact ⟨rfl, hEnd⟩

/-- Messages in a hidden channel make no difference.  Take a channel that is not shared and a user who is
not a member of it, and two relays that are equal but for the messages of that channel.  Whatever the user
asks for, one thing after another, both relays give the same answers, have the same frames in the same
queues after each of them, and are in the end again equal but for these messages.  The ids that the user's
posts are given must not be those of messages of the channel. -/
theorem hidden_messages_make_no_difference {r r' : Relay} {row : Store.ChannelRow}
    (hExists : r.store.database.channel? channel = some row) (hKind : row.kind ≠ some "public")
    (hMember : r.store.database.isMember channel user = false) (hSame : r.EqualBeside channel r')
    {moves : List Move}
    (hIds : ∀ req fresh, Move.post req fresh ∈ moves →
      (∀ n ∈ r.store.database.rowsOf channel, n.id ≠ fresh.id.toString) ∧
        ∀ n ∈ r'.store.database.rowsOf channel, n.id ≠ fresh.id.toString) :
    (r'.play user moves).1 = (r.play user moves).1 ∧
      (r.play user moves).2.EqualBeside channel (r'.play user moves).2 := by
  have hUnseen : r.store.database.sees user channel = false := by
    rw [Database.sees_of_kind (Database.kind?_of_channel? hExists), hMember, Bool.or_false,
      Bool.eq_false_iff, ne_eq, row.isShared_iff]
    exact hKind
  have hPresent : (r.store.database.channel? channel).isSome := by
    rw [hExists]
    rfl
  have hApart : Apart user channel _ _ r r' := ⟨hSame, ⟨hPresent, hUnseen⟩, rfl, rfl⟩
  obtain ⟨hSeen, hEnd⟩ := hApart.play hIds
  exact ⟨hSeen, hEnd.equal⟩

/-- A user who asks for the history of a channel that they may not see, and posts to another. -/
theorem hidden_messages_make_no_difference_vault :
    let r := (Relay.ofDatabase .fresh 1).after [.edit (.createChannel "vault" "Vault" "private"),
      .edit (.insertMessage ⟨"m", "vault", "bob", 9, 1, [1], [], []⟩)]
    let moves : List Move := [.history 50 "vault" none none,
      .post ⟨"general", [2], [], [], .text⟩ ⟨.zero, 5⟩, .history 50 "general" none none]
    ((r.withMessages []).play "ann" moves).1 = (r.play "ann" moves).1 ∧
      (r.play "ann" moves).2.EqualBeside "vault" ((r.withMessages []).play "ann" moves).2 := by
  intro r moves
  have hSame : r.EqualBeside "vault" (r.withMessages []) := ⟨[], by decide⟩
  have hExists : r.store.database.channel? "vault" =
      some ⟨"vault", "Vault", some "private", true⟩ := rfl
  refine hidden_messages_make_no_difference hExists (by decide) (by decide) hSame
    fun req fresh hPost => ?_
  obtain ⟨rfl, rfl⟩ : req = ⟨"general", [2], [], [], .text⟩ ∧ fresh = ⟨.zero, 5⟩ := by
    simpa [moves] using hPost
  exact ⟨by decide, by decide⟩

end ChatRelay
