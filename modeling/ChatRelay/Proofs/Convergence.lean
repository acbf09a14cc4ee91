import ChatRelay.Proofs.Blind
import ChatRelay.Proofs.Interleaving
import ChatRelay.Proofs.Store.Pairs
import ChatRelay.Proofs.Visibility

/-! Two users who write to each other at the same time, in whatever way and however often, end in one
conversation.  `Stage` says what the store may hold while they do: what it held at the start, with the
conversation or without it, and any messages.  Each call of either user keeps this as its guarantee, and only
one that finds no conversation goes on to the other stage, and says so. -/

namespace ChatRelay

open Operation (call)
open Store (Call Database MessageRow ChannelRow)

/-! ### Stages -/

/-- Two users who exist, are named like no channel, and have no conversation yet, in a store in which no
insert goes wrong. -/
structure Strangers (db : Database) (a b : String) : Prop where
  different : a ≠ b
  named : a ≠ "" ∧ b ≠ ""
  known : (db.user? a).isSome ∧ (db.user? b).isSome
  noChannels : db.channel? a = none ∧ db.channel? b = none
  absent : db.channel? (directChannel a b) = none
  linked : db.Linked
  faults : db.faults = {}

namespace Strangers

variable {db : Database} {a b : String}

theorem symm (h : Strangers db a b) : Strangers db b a where
  different := h.different.symm
  named := h.named.symm
  known := h.known.symm
  noChannels := h.noChannels.symm
  absent := directChannel_comm a b ▸ h.absent
  linked := h.linked
  faults := h.faults

theorem nobody (h : Strangers db a b) (user : String) : db.isMember (directChannel a b) user = false :=
  h.linked.isMember_eq_false h.absent user

end Strangers

/-- What a relay is like while two users open their conversation, after `opened` of their calls have said
that they made it: the content is that of the start, with other messages, and with the conversation if
somebody made it. -/
inductive Stage (start : Database) (a b : String) : (opened : Nat) → Relay → Prop
  | before {r : Relay} {rows : List MessageRow} (hUsable : r.store.poisoned = false)
      (hContent : r.store.database = start.withMessages rows) : Stage start a b 0 r
  | after {r : Relay} {rows : List MessageRow} {first second : String} (hUsable : r.store.poisoned = false)
      (hPair : first = a ∧ second = b ∨ first = b ∧ second = a)
      (hContent : r.store.database = (start.withDirect first second).withMessages rows) :
      Stage start a b 1 r

/-- A call of a user reported that it made a conversation. -/
def Performed.opened : Performed → Bool
  | ⟨.call (.findOrCreateDirect ..), .ok true⟩ => true
  | _ => false

/-- The guarantee of each call: from a stage it leads to that stage, or to the next one if it reports that
it made the conversation. -/
def Meets (start : Database) (a b : String) (r : Relay) (e : Performed) (r' : Relay) : Prop :=
  ∀ n, Stage start a b n r → Stage start a b (n + if e.opened then 1 else 0) r'

variable {start : Database} {a b : String} {n : Nat} {r r' : Relay}

theorem Stage.symm (h : Stage start a b n r) : Stage start b a n r := by
  cases h with
  | before hUsable hContent => exact .before hUsable hContent
  | after hUsable hPair hContent => exact .after hUsable hPair.symm hContent

theorem stage_comm (start : Database) (a b : String) : Stage start a b = Stage start b a := by
  funext n r
  exact propext ⟨Stage.symm, Stage.symm⟩

theorem meets_comm (start : Database) (a b : String) : Meets start a b = Meets start b a := by
  unfold Meets
  rw [stage_comm]

namespace Stage

theorem le_one (h : Stage start a b n r) : n ≤ 1 := by
  cases h <;> simp

/-- No stage is left for an earlier one. -/
theorem later (h : Stage start a b n r) (hLater : Later (Meets start a b) r r') :
    ∃ m, n ≤ m ∧ Stage start a b m r' := by
  induction hLater with
  | refl => exact ⟨n, Nat.le_refl n, h⟩
  | tail _ hStep ih =>
    obtain ⟨m, hLe, hStage⟩ := ih
    obtain ⟨e, hMeets⟩ := hStep
    exact ⟨_, Nat.le_trans hLe (Nat.le_add_right m _), hMeets m hStage⟩

theorem opened_later (h : Stage start a b 1 r) (hLater : Later (Meets start a b) r r') :
    Stage start a b 1 r' := by
  obtain ⟨m, hLe, hStage⟩ := h.later hLater
  obtain rfl : m = 1 := Nat.le_antisymm hStage.le_one hLe
  exact hStage

theorem usable (h : Stage start a b n r) : r.store.poisoned = false := by
  cases h with
  | before hUsable _ => exact hUsable
  | after hUsable _ _ => exact hUsable

theorem faults (h : Stage start a b n r) : r.store.database.faults = start.faults := by
  cases h with
  | before _ hContent => rw [hContent]; rfl
  | after _ _ hContent => rw [hContent]; rfl

theorem isSome_user? (h : Stage start a b n r) (hStart : Strangers start a b) :
    (r.store.database.user? b).isSome := by
  cases h with
  | before _ hContent => rw [hContent]; exact hStart.known.2
  | after _ _ hContent => rw [hContent]; exact hStart.known.2

theorem kindText?_user (h : Stage start a b n r) (hStart : Strangers start a b) :
    r.store.database.kindText? b = none := by
  have hStartKind : start.kindText? b = none := by rw [Database.kindText?, hStart.noChannels.2]; rfl
  cases h with
  | before _ hContent => rw [hContent]; exact hStartKind
  | @after r rows first second _ hPair hContent =>
    have hOther : directChannel first second ≠ b := by
      rcases hPair with ⟨rfl, rfl⟩ | ⟨rfl, rfl⟩
      · exact directChannel_ne_right _ _
      · exact directChannel_ne_left _ _
    rw [hContent]
    show ((start.withDirect first second).channel? b).map _ = none
    rw [Database.channel?_withDirect, hStart.noChannels.2, if_neg hOther]
    rfl

theorem directChannel_eq {first second : String} (h : first = a ∧ second = b ∨ first = b ∧ second = a) :
    directChannel first second = directChannel a b := by
  rcases h with ⟨rfl, rfl⟩ | ⟨rfl, rfl⟩
  · rfl
  · exact directChannel_comm _ _

theorem isBetween (h : Stage start a b 1 r) (hStart : Strangers start a b) :
    r.store.database.IsBetween (directChannel a b) a b := by
  cases h with
  | @after r rows first second _ hPair hContent =>
    have hChannel := directChannel_eq hPair
    rw [hContent]
    refine ⟨?_, fun user => ?_⟩
    · show ((start.withDirect first second).channel? (directChannel a b)).map _ = _
      rw [Database.channel?_withDirect, hStart.absent, if_pos hChannel]
      rfl
    · show (start.withDirect first second).isMember (directChannel a b) user ↔ _
      rw [Database.isMember_withDirect, hStart.nobody]
      rcases hPair with ⟨rfl, rfl⟩ | ⟨rfl, rfl⟩
      · simp
      · simp [hChannel, or_comm]

theorem eq_one (h : Stage start a b n r) (hStart : Strangers start a b) (hMade : Stage start a b 1 r) :
    n = 1 := by
  cases h with
  | after => rfl
  | before _ hContent =>
    have hSome := (hMade.isBetween hStart).isSome_channel?
    have hNone : r.store.database.channel? (directChannel a b) = none := by
      rw [hContent]
      exact hStart.absent
    rw [hNone] at hSome
    contradiction

/-- Whoever asks for the conversation finds it made afterwards, and is told so if they made it. -/
theorem findOrCreateDirect (h : Stage start a b n r) (hStart : Strangers start a b) {created : Bool}
    {database : Database}
    (hOk : r.store.database.findOrCreateDirect (directChannel a b) a b = .ok (created, database)) :
    Stage start a b 1 { r with store.database := database } ∧ n + (if created then 1 else 0) = 1 := by
  cases h with
  | @before r rows hUsable hContent =>
    rw [hContent] at hOk
    obtain ⟨rfl, rfl⟩ := Database.findOrCreateDirect_new hOk hStart.faults hStart.different hStart.absent
      hStart.nobody
    exact ⟨@Stage.after _ _ _ _ rows _ _ hUsable (.inl ⟨rfl, rfl⟩) rfl, rfl⟩
  | after hUsable hPair hContent =>
    have hBetween := (Stage.after hUsable hPair hContent).isBetween hStart
    rw [Database.findOrCreateDirect_of_present hBetween.isSome_channel? a b] at hOk
    obtain ⟨rfl, rfl⟩ : false = created ∧ _ = database := by simpa using hOk
    exact ⟨.after hUsable hPair hContent, rfl⟩

end Stage

/-! ### The guarantee -/

theorem meets_of_store {e : Performed} (hOpened : e.opened = false) (hStore : r'.store = r.store) :
    Meets start a b r e r' := by
  intro n hStage
  rw [hOpened]
  cases hStage with
  | before hUsable hContent => exact .before (hStore ▸ hUsable) (hStore ▸ hContent)
  | after hUsable hPair hContent => exact .after (hStore ▸ hUsable) hPair (hStore ▸ hContent)

theorem meets_of_isRead {action : Action} (h : action.IsRead) (r : Relay) :
    Meets start a b r (action.performed r) (action.perform r).2 := by
  refine meets_of_store ?_ (congrArg Relay.store (Action.perform_of_isRead h r))
  obtain ⟨c, hRead, rfl⟩ := h
  cases c <;> first | rfl | exact absurd hRead id

theorem meets_of_onRegistry {action : Action} (h : action.OnRegistry) (r : Relay) :
    Meets start a b r (action.performed r) (action.perform r).2 := by
  refine meets_of_store ?_ (Action.store_perform_of_onRegistry h r)
  cases action <;> first | rfl | exact absurd h id

theorem meets_insertMessage (hStart : Strangers start a b) {row : MessageRow} {database : Database}
    (hOk : r.store.database.insertMessage row = .ok database) :
    Meets start a b r ⟨.call (.insertMessage row), .ok ()⟩ { r with store.database := database } := by
  intro n hStage
  obtain rfl := Database.insertMessage_of_faults (hStage.faults.trans hStart.faults) hOk
  cases hStage with
  | @before r rows hUsable hContent =>
    exact @Stage.before _ _ _ _ (rows ++ [row]) hUsable (by rw [hContent]; rfl)
  | @after r rows first second hUsable hPair hContent =>
    exact @Stage.after _ _ _ _ (rows ++ [row]) _ _ hUsable hPair (by rw [hContent]; rfl)

theorem meets_findOrCreateDirect (hStart : Strangers start a b) {created : Bool} {database : Database}
    (hOk : r.store.database.findOrCreateDirect (directChannel a b) a b = .ok (created, database)) :
    Meets start a b r ⟨.call (.findOrCreateDirect (directChannel a b) a b), .ok created⟩
      { r with store.database := database } := by
  intro n hStage
  obtain ⟨hMade, hOnce⟩ := hStage.findOrCreateDirect hStart hOk
  have hSaid : Performed.opened ⟨.call (.findOrCreateDirect (directChannel a b) a b), .ok created⟩ =
      created := by
    cases created <;> rfl
  rw [hSaid, hOnce]
  exact hMade

/-! ### Each operation -/

/-- As long as no call fails, the operation keeps the guarantee, and ends as `ends` says. -/
abbrev Joins {α : Type} (start : Database) (a b : String) (ends : List Performed → Relay → α → Prop)
    (op : Operation α) (past : List Performed) (r : Relay) : Prop :=
  op.Keeps Performed.Succeeded (Meets start a b) ends past r

variable {past : List Performed}

theorem joins_read {c : Call} (hRead : c.IsRead) :
    Joins start a b (fun past' r' answer => past' = past ++ [⟨.call c, .ok answer⟩] ∧
      c.apply r'.store.database = .ok (answer, r'.store.database)) (call c) past r := by
  refine .call (fun _ => id) fun r' answer database hLater hApply => ?_
  obtain ⟨answer', hSame⟩ := c.apply_of_isRead hRead r'.store.database
  obtain ⟨rfl, rfl⟩ : answer' = answer ∧ r'.store.database = database := by simpa [hSame] using hApply
  refine ⟨meets_of_store ?_ rfl, rfl, hSame⟩
  cases c <;> first | rfl | exact absurd hRead id

theorem classify_joins (hStart : Strangers start a b) (hStage : Stage start a b n r) :
    Joins start a b (fun _ _ d => d = .direct b) (classify a b) past r := by
  unfold classify
  rw [if_neg hStart.named.2]
  refine .bind (joins_read (c := .kindText b) trivial) fun past₁ r₁ text hLater₁ hText => ?_
  obtain ⟨m₁, -, hStage₁⟩ := hStage.later hLater₁
  obtain ⟨rfl, -⟩ := Prod.mk.inj (Except.ok.inj hText.2)
  rw [hStage₁.kindText?_user hStart, if_neg (by simp)]
  refine .bind (joins_read (c := .userExists b) trivial) fun past₂ r₂ known hLater₂ hKnown => ?_
  obtain ⟨m₂, -, hStage₂⟩ := hStage₁.later hLater₂
  obtain ⟨rfl, -⟩ := Prod.mk.inj (Except.ok.inj hKnown.2)
  rw [hStage₂.isSome_user? hStart, if_neg (by simp), if_neg hStart.different.symm]
  exact .pure rfl

theorem openDirect_joins (hStart : Strangers start a b) (hStage : Stage start a b n r) :
    Joins start a b (fun _ r c => c = directChannel a b ∧ Stage start a b 1 r) (openDirect a b) past r := by
  have hOpen : Joins start a b (fun _ r _ => Stage start a b 1 r)
      (call (.findOrCreateDirect (directChannel a b) a b)) past r := by
    refine .call (fun _ => id) fun r' created database hLater hApply => ?_
    obtain ⟨m, -, hStage'⟩ := hStage.later hLater
    exact ⟨meets_findOrCreateDirect hStart hApply, (hStage'.findOrCreateDirect hStart hApply).1⟩
  exact .bind hOpen fun _ _ _ _ hStage' => .pure ⟨rfl, hStage'⟩

theorem resolve_joins (hStart : Strangers start a b) (hStage : Stage start a b n r) :
    Joins start a b (fun _ r c => c = directChannel a b ∧ Stage start a b 1 r) (resolve a b) past r := by
  refine .bind (classify_joins hStart hStage) fun past₁ r₁ d hLater hDirect => ?_
  obtain rfl : d = .direct b := hDirect
  obtain ⟨m, -, hStage₁⟩ := hStage.later hLater
  exact openDirect_joins hStart hStage₁

theorem createDirect_joins (hStart : Strangers start a b) (hStage : Stage start a b n r) :
    Joins start a b (fun _ r c => c = directChannel a b ∧ Stage start a b 1 r) (createDirect a b)
      past r := by
  unfold createDirect
  rw [if_neg hStart.different]
  refine .bind (joins_read (c := .userExists b) trivial) fun past₁ r₁ known hLater hKnown => ?_
  obtain ⟨m, -, hStage₁⟩ := hStage.later hLater
  obtain ⟨rfl, -⟩ := Prod.mk.inj (Except.ok.inj hKnown.2)
  rw [hStage₁.isSome_user? hStart]
  exact openDirect_joins hStart hStage₁

theorem authorize_joins (hStart : Strangers start a b) (hStage : Stage start a b 1 r) :
    Joins start a b (fun _ r _ => Stage start a b 1 r) (authorize a (directChannel a b)) past r := by
  have hKind : Joins start a b (fun _ r kind => kind = .direct ∧ Stage start a b 1 r)
      (channelKind (directChannel a b)) past r := by
    refine .bind (joins_read (c := .kindText (directChannel a b)) trivial)
      fun past₁ r₁ text hLater₁ hText => ?_
    have hStage₁ := hStage.opened_later hLater₁
    obtain ⟨rfl, -⟩ := Prod.mk.inj (Except.ok.inj hText.2)
    rw [(hStage₁.isBetween hStart).1]
    exact .pure ⟨rfl, hStage₁⟩
  refine .bind hKind fun past₁ r₁ kind hLater₁ hDirect => ?_
  obtain ⟨rfl, hStage₁⟩ := hDirect
  rw [if_neg (by decide)]
  refine .bind (joins_read (c := .isMember (directChannel a b) a) trivial)
    fun past₂ r₂ member hLater₂ hMember => ?_
  have hStage₂ := hStage₁.opened_later hLater₂
  obtain ⟨rfl, -⟩ := Prod.mk.inj (Except.ok.inj hMember.2)
  rw [((hStage₂.isBetween hStart).2 a).2 (.inl rfl)]
  exact .pure hStage₂

/-! ### What a user asks for -/

/-- The user asks for the conversation with the partner, posts to them, or reads what was posted. -/
def Move.Names (partner : String) : Move → Prop
  | resolve token | createDirect token | history _ token _ _ => token = partner
  | post req _ => req.destination = partner
  | listChannels | listMembers _ => False

/-- The answer is of the channel: its id, a message that was stored in it, or what the store gave for it. -/
def Reply.LandsOn (channel : String) (past : List Performed) : Reply → Prop
  | .channel id => id = channel
  | message m => m.channel = channel ∧ ⟨.call (.insertMessage (.ofMessage m)), .ok ()⟩ ∈ past
  | messages found => ∃ limit before rows, ⟨.call (.messages channel limit before), .ok rows⟩ ∈ past ∧
      found = rows.filterMap Store.MessageRow.message?
  | channels _ | members _ => False

theorem storedHistory_joins (hStage : Stage start a b 1 r) (channel : String) (limit : Nat)
    (before : Option Int64) :
    Joins start a b (fun past r found => (Reply.messages found).LandsOn channel past ∧ Stage start a b 1 r)
      (storedHistory channel limit before) past r := by
  refine .bind (joins_read (c := .messages channel limit before) trivial)
    fun past₁ r₁ rows hLater hRows => ?_
  refine .pure ⟨⟨limit, before, rows, ?_, rfl⟩, hStage.opened_later hLater⟩
  rw [hRows.1]
  exact List.mem_append_right _ List.mem_cons_self

theorem history_joins (hStart : Strangers start a b) (hStage : Stage start a b n r) (ceiling : Nat)
    (limit : Option Nat) (before : Option Int64) :
    Joins start a b
      (fun past r found => (Reply.messages found).LandsOn (directChannel a b) past ∧ Stage start a b 1 r)
      (history ceiling a b limit before) past r := by
  refine .bind (resolve_joins hStart hStage) fun past₁ r₁ channel hLater₁ hFound => ?_
  obtain ⟨rfl, hStage₁⟩ := hFound
  refine .bind (authorize_joins hStart hStage₁) fun past₂ r₂ kind hLater₂ hStage₂ => ?_
  exact storedHistory_joins hStage₂ _ _ before

theorem append_joins (hStart : Strangers start a b) (hStage : Stage start a b 1 r) (sender : String)
    (req : SendRequest) (fresh : Fresh) :
    Joins start a b
      (fun past r m => (Reply.message m).LandsOn (directChannel a b) past ∧ Stage start a b 1 r)
      (append sender (directChannel a b) req fresh) past r := by
  have hTime : Joins start a b (fun _ r _ => Stage start a b 1 r)
      (Operation.perform (.stamp fresh.wall)) past r := by
    refine .lift fun r' hLater hOk => ?_
    have hMeets : Meets start a b r' ((Action.stamp fresh.wall).performed r')
        ((Action.stamp fresh.wall).perform r').2 := meets_of_store rfl rfl
    exact ⟨hMeets, (hStage.opened_later hLater).opened_later (.single ⟨_, hMeets⟩)⟩
  refine .bind hTime fun past₁ r₁ time hLater₁ hStage₁ => ?_
  generalize hMessage : (⟨fresh.id, directChannel a b, sender, time, req.kind, req.content, req.nonce,
    req.signature⟩ : Message) = m
  have hInsert : Joins start a b (fun past r _ =>
      ⟨.call (.insertMessage (.ofMessage m)), .ok ()⟩ ∈ past ∧ Stage start a b 1 r)
      (call (.insertMessage (.ofMessage m))) past₁ r₁ := by
    refine .call (fun _ => id) fun r' answer database hLater hApply => ?_
    have hMeets := meets_insertMessage (r := r') hStart (Call.change_ok hApply)
    have hStored := List.mem_append_right past₁
      (List.mem_cons_self (a := (⟨.call (.insertMessage (.ofMessage m)), .ok ()⟩ : Performed)) (l := []))
    exact ⟨hMeets, hStored, (hStage₁.opened_later hLater).opened_later (.single ⟨_, hMeets⟩)⟩
  refine .bind hInsert fun past₂ r₂ _ hLater₂ hStored => ?_
  exact .pure ⟨⟨hMessage ▸ rfl, hStored.1⟩, hStored.2⟩

theorem broadcast_joins (hStage : Stage start a b 1 r) (m : Message) :
    Joins start a b (fun past' r _ => past <+: past' ∧ Stage start a b 1 r)
      (Operation.attempt (broadcast m)) past r := by
  refine .lift (.of_always (broadcast_uses m).run (fun action r' hAction _ _ => ?_)
    fun past' r' _ hPast hLater _ => ⟨hPast, hStage.opened_later hLater⟩)
  obtain hRead | hSpreads := hAction
  · exact meets_of_isRead hRead r'
  · exact meets_of_onRegistry hSpreads.onRegistry r'

theorem post_joins (hStart : Strangers start a b) (hStage : Stage start a b n r) {req : SendRequest}
    (hDestination : req.destination = b) (fresh : Fresh) :
    Joins start a b
      (fun past r m => (Reply.message m).LandsOn (directChannel a b) past ∧ Stage start a b 1 r)
      (post a req fresh) past r := by
  unfold post
  rw [hDestination]
  refine .bind (resolve_joins hStart hStage) fun past₁ r₁ channel hLater₁ hFound => ?_
  obtain ⟨rfl, hStage₁⟩ := hFound
  refine .bind (authorize_joins hStart hStage₁) fun past₂ r₂ kind hLater₂ hStage₂ => ?_
  refine .bind (append_joins hStart hStage₂ a req fresh) fun past₃ r₃ m hLater₃ hStored => ?_
  obtain ⟨⟨hChannel, hInserted⟩, hStage₃⟩ := hStored
  refine .bind (broadcast_joins hStage₃ m) fun past₄ r₄ _ hLater₄ hSpread => ?_
  exact .pure ⟨⟨hChannel, hSpread.1.subset hInserted⟩, hSpread.2⟩

/-- Whatever the user asks for, it is of the conversation with the partner. -/
theorem Move.joins (hStart : Strangers start a b) (hStage : Stage start a b n r) {move : Move}
    (hNames : move.Names b) :
    Joins start a b (fun past r reply => reply.LandsOn (directChannel a b) past ∧ Stage start a b 1 r)
      (move.operation a) past r := by
  cases move with
  | resolve token =>
    obtain rfl : token = b := hNames
    exact .bind (resolve_joins hStart hStage) fun _ _ _ _ hFound => .pure hFound
  | history ceiling token limit before =>
    obtain rfl : token = b := hNames
    exact .bind (history_joins hStart hStage ceiling limit before) fun _ _ _ _ hFound => .pure hFound
  | listChannels => exact hNames.elim
  | listMembers channel => exact hNames.elim
  | createDirect target =>
    obtain rfl : target = b := hNames
    exact .bind (createDirect_joins hStart hStage) fun _ _ _ _ hFound => .pure hFound
  | post req fresh =>
    exact .bind (post_joins hStart hStage hNames fresh) fun _ _ _ _ hFound => .pure hFound

/-! ### What lasts -/

/-- The name of a channel names it for everyone, whatever happens to the relay in between. -/
theorem resolve_runOn_after {c : String} {row : ChannelRow} (hUsable : r.store.poisoned = false)
    (hFaults : r.store.database.faults = {}) (hName : c ≠ "") (hRow : r.store.database.channel? c = some row)
    (events : List Event) (user : String) :
    (resolve user c).runOn (r.after events) = (.ok c, r.after events) := by
  have hAfter := r.after_preserves (P := fun r => r.store.poisoned = false ∧
    r.store.database.faults = {} ∧ r.store.database.channel? c = some row) ?_ ?_ events
    ⟨hUsable, hFaults, hRow⟩
  · exact resolve_runOn hAfter.1 hName hAfter.2.2 user
  · rintro action r ⟨hUsable, hFaults, hRow⟩
    have hLasts := action.lasts_perform r hFaults
    exact ⟨(action.poisoned_perform r).trans hUsable, hLasts.faults, hLasts.channels c row hRow⟩
  · exact fun id r h => h

/-! ### Convergence -/

/-- Users ask for things, and all of them have yet to begin. -/
def Relay.asked (r : Relay) (requests : List (String × Move)) :
    Crowd (String × Move) (Except RelayError Reply) where
  relay := r
  strands := requests.map fun ask => { label := ask, rest := (ask.2.operation ask.1).run }

/-- One of two users asks for what names the other. -/
def Corresponds (a b : String) (ask : String × Move) : Prop :=
  ask.1 = a ∧ ask.2.Names b ∨ ask.1 = b ∧ ask.2.Names a

/-- What a request ends with once the conversation is made. -/
def Lands (start : Database) (a b : String) (past : List Performed) (r : Relay)
    (result : Except RelayError Reply) : Prop :=
  ∃ reply, result = .ok reply ∧ reply.LandsOn (directChannel a b) past ∧ Stage start a b 1 r

theorem Lands.later {past : List Performed} {result : Except RelayError Reply}
    (h : Lands start a b past r result) (hLater : Later (Meets start a b) r r') :
    Lands start a b past r' result := by
  obtain ⟨reply, hReply, hLands, hMade⟩ := h
  exact ⟨reply, hReply, hLands, hMade.opened_later hLater⟩

theorem keeps_asked (hStart : Strangers r.store.database a b) (hUsable : r.store.poisoned = false)
    {requests : List (String × Move)} (hRequests : ∀ ask ∈ requests, Corresponds a b ask) :
    (r.asked requests).Keeps Performed.Succeeded (Meets r.store.database a b)
      fun _ => Lands r.store.database a b := by
  have hStage : Stage r.store.database a b 0 r :=
    @Stage.before _ _ _ _ r.store.database.messages hUsable rfl
  intro t ht
  obtain ⟨ask, hAsk, rfl⟩ := List.mem_map.1 ht
  obtain ⟨hUser, hNames⟩ | ⟨hUser, hNames⟩ := hRequests ask hAsk
  · rw [hUser]
    exact Move.joins hStart hStage hNames
  · rw [hUser]
    have hKeeps : Joins r.store.database b a _ (ask.2.operation b) [] r :=
      Move.joins hStart.symm hStage.symm hNames
    rw [Joins, meets_comm, stage_comm, directChannel_comm] at hKeeps
    exact hKeeps

/-- Two users who have no conversation come to have one, however they begin.  Let them ask for it, post to
each other or read what was posted, any number of times, and let their calls on the store happen in any
order.  Then they come to an end; and if no call failed by then
* every request has succeeded, and its answer is of the one conversation;
* one call in all has said that it made the conversation;
* the store has its channel and its two memberships more, and is otherwise as it was but for messages;
* from then on its name names it for everyone, and nothing is changed by asking. -/
theorem conversation_converges (hStart : Strangers r.store.database a b)
    (hUsable : r.store.poisoned = false) {requests : List (String × Move)} (hSome : requests ≠ [])
    (hRequests : ∀ ask ∈ requests, Corresponds a b ask) :
    Acc (fun p' p => Crowd.Step (fun _ => True) p p') (r.asked requests) ∧
    ∀ p, Relation.ReflTransGen (Crowd.Step Performed.Succeeded) (r.asked requests) p → p.IsOver →
      p.strands.map (·.label) = requests ∧
      (∀ t ∈ p.strands, ∃ reply, t.rest = .done (.ok reply) ∧
        reply.LandsOn (directChannel a b) t.past) ∧
      p.count Performed.opened = 1 ∧
      (∃ first second rows, (first = a ∧ second = b ∨ first = b ∧ second = a) ∧
        p.relay.store.database = { r.store.database with
          channels.rows := r.store.database.channels.rows ++
            [⟨directChannel a b, "Direct Message", some "dm", true⟩]
          members.rows := r.store.database.members.rows ++
            [⟨directChannel a b, first, r.store.database.members.ofUsers⟩,
              ⟨directChannel a b, second, r.store.database.members.ofUsers⟩]
          messages := rows }) ∧
      ∀ events user, (resolve user (directChannel a b)).runOn (p.relay.after events) =
        (.ok (directChannel a b), p.relay.after events) := by
  refine ⟨(Crowd.wellFounded_step _).apply _, fun p hRun hOver => ?_⟩
  have hNone : (r.asked requests).count Performed.opened = 0 := by
    simp [Crowd.count, Relay.asked, List.flatMap_map]
  have hFirst : Stage r.store.database a b ((r.asked requests).count Performed.opened) r :=
    hNone ▸ @Stage.before _ _ _ _ r.store.database.messages hUsable rfl
  -- The stage is the number of calls that made the conversation; the requests that are over have left it at
  -- the second one.
  obtain ⟨hKeeps, hLabels, hStage⟩ := (keeps_asked hStart hUsable hRequests).run
    (fun _ _ _ _ _ hLater h => h.later hLater) (fun n _ _ _ hStage hMeets => hMeets n hStage) hFirst hRun
  have hLabels : p.strands.map (·.label) = requests := by
    rw [hLabels]
    simp [Relay.asked, Function.comp_def]
  have hLands : ∀ t ∈ p.strands, ∃ result, t.rest = .done result ∧
      Lands r.store.database a b t.past p.relay result := by
    intro t ht
    obtain ⟨result, hRest⟩ := Crowd.isOver_iff.1 hOver t ht
    have hEnd := hKeeps t ht
    rw [hRest] at hEnd
    exact ⟨result, hRest, hEnd⟩
  have hMade : Stage r.store.database a b 1 p.relay := by
    obtain ⟨t, ht⟩ := List.exists_mem_of_ne_nil p.strands fun hNil => hSome (by rw [← hLabels, hNil]; rfl)
    obtain ⟨-, -, -, -, -, hMade⟩ := hLands t ht
    exact hMade
  refine ⟨hLabels, fun t ht => ?_, hStage.eq_one hStart hMade, ?_, fun events user => ?_⟩
  · obtain ⟨_, hRest, reply, rfl, hReply, -⟩ := hLands t ht
    exact ⟨reply, hRest, hReply⟩
  · cases hMade with
    | @after r' rows first second hUsable hPair hContent =>
      refine ⟨first, second, rows, hPair, ?_⟩
      rw [hContent, ← Stage.directChannel_eq hPair]
      rfl
  · obtain ⟨row, hRow⟩ := Option.isSome_iff_exists.1 (hMade.isBetween hStart).isSome_channel?
    exact resolve_runOn_after hMade.usable (hMade.faults.trans hStart.faults)
      (namesDirect_directChannel a b).ne_empty hRow events user

/-- A relay with two users who have no conversation. -/
def Relay.ofStrangers : Relay :=
  (Relay.ofDatabase .fresh 1).after
    [.edit (.createUser "ann" "ann" none), .edit (.createUser "bob" "bob" none)]

theorem strangers_ofStrangers : Strangers Relay.ofStrangers.store.database "ann" "bob" where
  different := by decide
  named := by decide
  known := by decide
  noChannels := by decide
  absent := by decide
  linked := Relay.linked_after (fun m hm => absurd hm List.not_mem_nil) _
  faults := rfl

/-- Each of two users finds that there is no conversation before either makes it. -/
theorem conversation_converges_ann_bob :
    ∃ p, Relation.ReflTransGen (Crowd.Step Performed.Succeeded)
        (Relay.ofStrangers.asked [("ann", .createDirect "bob"), ("bob", .history 50 "ann" none none)]) p ∧
      p.IsOver ∧ p.count Performed.opened = 1 ∧
      ∀ t ∈ p.strands, ∃ reply, t.rest = .done (.ok reply) ∧ reply.LandsOn "dm:ann:bob" t.past := by
  obtain ⟨p, hRun, hOver⟩ : ∃ p, Relation.ReflTransGen (Crowd.Step Performed.Succeeded)
      (Relay.ofStrangers.asked [("ann", .createDirect "bob"), ("bob", .history 50 "ann" none none)]) p ∧
      p.IsOver := by
    have hRun := ((((((((Relation.ReflTransGen.refl (r := Crowd.Step Performed.Succeeded)
      (a := Relay.ofStrangers.asked
        [("ann", .createDirect "bob"), ("bob", .history 50 "ann" none none)])).tail
      (@Crowd.Step.perform _ _ _ _ [] _ _ _ _ rfl rfl trivial)).tail
      (@Crowd.Step.perform _ _ _ _ [_] [] _ _ _ rfl rfl trivial)).tail
      (@Crowd.Step.perform _ _ _ _ [_] [] _ _ _ rfl rfl trivial)).tail
      (@Crowd.Step.perform _ _ _ _ [_] [] _ _ _ rfl rfl trivial)).tail
      (@Crowd.Step.perform _ _ _ _ [] _ _ _ _ rfl rfl trivial)).tail
      (@Crowd.Step.perform _ _ _ _ [_] [] _ _ _ rfl rfl trivial)).tail
      (@Crowd.Step.perform _ _ _ _ [_] [] _ _ _ rfl rfl trivial)).tail
      (@Crowd.Step.perform _ _ _ _ [_] [] _ _ _ rfl rfl trivial)
    refine ⟨_, hRun, Crowd.isOver_iff.2 ?_⟩
    exact List.forall_mem_cons.2 ⟨⟨_, rfl⟩, List.forall_mem_cons.2 ⟨⟨_, rfl⟩, List.forall_mem_nil _⟩⟩
  have hRequests : ∀ ask ∈ [("ann", .createDirect "bob"), ("bob", Move.history 50 "ann" none none)],
      Corresponds "ann" "bob" ask := by
    intro ask hAsk
    rcases List.mem_pair.1 hAsk with rfl | rfl
    · exact .inl ⟨rfl, rfl⟩
    · exact .inr ⟨rfl, rfl⟩
  obtain ⟨-, hLands, hOnce, -⟩ :=
    (conversation_converges strangers_ofStrangers rfl (List.cons_ne_nil _ _) hRequests).2 p hRun hOver
  exact ⟨p, hRun, hOver, hOnce, hLands⟩

end ChatRelay
