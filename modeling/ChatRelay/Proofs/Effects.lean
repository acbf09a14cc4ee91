import ChatRelay.Proofs.Troubles

/-! What each operation leaves of the store, whatever goes wrong with its calls.  Only a post stores a
message, and nothing else is ever added but a direct conversation of the user who asks, whole and only if it
was not there; who is denied leaves the store as it was.  A post takes the answer of its insert for the
message itself: where the database drops the message, the sender is answered all the same, and where a trigger
of the database takes the channel away, the channel is gone. -/

namespace ChatRelay

open Operation (Always Reads mayEnd_bind mayEnd_call mayEnd_pure mayEnd_throw mayEnd_lift)
open Store (Call Database)

variable {r r' : Relay} {user token channel : String}

/-- The user may not have what was asked for. -/
def RelayError.Denies : RelayError → Prop
  | channelMissing | forbidden => True
  | storage _ | encoding _ => False

/-! ### Looking -/

theorem channelKind_reads (channel : String) : (channelKind channel).Reads := by
  refine .bind (.call trivial) fun text => ?_
  cases text with
  | some text => exact .pure _
  | none => exact .throw _

theorem classify_reads (sender token : String) : (classify sender token).Reads := by
  unfold classify
  split
  · exact .pure _
  refine .bind (.call trivial) fun text => ?_
  split
  · exact .pure _
  refine .bind (.call trivial) fun known => ?_
  split
  · exact .pure _
  split
  · exact .throw _
  · exact .pure _

theorem authorize_reads (user channel : String) : (authorize user channel).Reads := by
  refine .bind (channelKind_reads channel) fun kind => ?_
  split
  · exact .pure _
  refine .bind (.call trivial) fun member => ?_
  cases member with
  | true => exact .pure _
  | false => exact .throw _

theorem storedHistory_reads (channel : String) (limit : Nat) (before : Option Int64) :
    (storedHistory channel limit before).Reads :=
  .bind (.call trivial) fun _ => .pure _

theorem listChannels_reads (user : String) : (listChannels user).Reads :=
  .bind (.call trivial) fun _ => .pure _

theorem listMembers_reads (user channel : String) : (listMembers user channel).Reads :=
  .bind (authorize_reads user channel) fun _ => .bind (.call trivial) fun _ => .pure _

/-- Where a token names another user, the user is named by the token. -/
theorem classify_names (sender token : String) :
    Always (fun _ => True) (fun d => ∀ user, d = .direct user → user = token) (classify sender token) := by
  unfold classify
  split
  · exact .pure (by simp)
  refine .bind (Always.call trivial fun _ => trivial) fun text _ => ?_
  split
  · exact .pure (by simp)
  refine .bind (Always.call trivial fun _ => trivial) fun known _ => ?_
  split
  · exact .pure (by simp)
  split
  · exact .throw _
  · exact .pure (by simp)

theorem classify_mayEnd_direct {other : String}
    (h : (classify user token).MayEnd r (.ok (.direct other)) r') :
    r' = r ∧ other = token ∧ user ≠ other := by
  have hSame := ((classify_reads user token).mayEnd h).1
  have hNames := Activity.Always.mayEnd (P := fun _ => True) (classify_names user token)
    (fun _ _ _ _ _ _ _ => trivial) h trivial
  have hOther := Activity.Always.mayEnd (P := fun _ => True) (classify_always user token)
    (fun _ _ _ _ _ _ _ => trivial) h trivial
  exact ⟨hSame, hNames.1 other rfl, hOther.1 other rfl⟩

/-! ### Opening a conversation -/

namespace Store

/-- The direct conversation of two users was opened, which was not there. -/
def Opened (user other : String) (s s' : Store) : Prop :=
  user ≠ other ∧ s.database.channel? (directChannel user other) = none ∧
    s' = { s with database := s.database.withOpened (directChannel user other) user other }

/-- Nothing has changed, but that the direct conversation of two users may have been opened. -/
def OpensAtMost (user other : String) (s s' : Store) : Prop :=
  s' = s ∨ Opened user other s s'

variable {s s' : Store} {other : String}

/-- Who has opened a conversation may see it. -/
theorem Opened.access (h : Opened user other s s') (hLinked : s.database.Linked) :
    s'.database.access user (directChannel user other) = .ok .direct := by
  obtain ⟨-, hNone, rfl⟩ := h
  have hKind : (s.database.withOpened (directChannel user other) user other).kind?
      (directChannel user other) = some .direct := by
    rw [Database.kind?, Database.kindText?_withOpened hNone]
    decide
  have hMember : (s.database.withOpened (directChannel user other) user other).isMember
      (directChannel user other) user = true :=
    (Database.isMember_withOpened (hLinked.isMember_eq_false hNone)).2 (.inl rfl)
  unfold Database.access
  rw [hKind]
  simp only
  rw [if_pos]
  rw [Database.sees_of_kind hKind, hMember, Bool.or_true]

/-- An opening that is carried out finds its channel or opens it; one that fails has done nothing. -/
theorem TellsOpening.cases {id a b : String} {answer : Except Error Bool}
    (h : s.TellsOpening id a b (answer, s')) :
    s' = s ∨ ∃ made, answer = .ok made ∧ s.database.channel? id = none ∧
      s' = { s with database := s.database.withOpened id a b } := by
  match answer, h with
  | .error _, h => exact .inl h
  | .ok false, h => exact .inl h.2
  | .ok true, h => exact .inr ⟨true, rfl, h.1, h.2.2.2⟩

theorem Call.MayDo.tells (hLinked : s.database.Linked) {id a b : String} {answer : Except Error Bool}
    (h : (Call.findOrCreateDirect id a b).MayDo s answer s') : s.TellsOpening id a b (answer, s') := by
  have hTells : ∀ t, ((answer, s') : Except Error Bool × Store) = s.openAmid t id a b →
      s.TellsOpening id a b (answer, s') := by
    intro t hOpen
    rw [hOpen]
    exact tells_openAmid hLinked t id a b
  obtain (hCall | ⟨cause, rfl, rfl⟩ | ⟨t, hOpen⟩) | hDropped := h
  · exact hTells {} (hCall.trans (s.openAmid_nothing id a b).symm)
  · exact rfl
  · exact hTells t hOpen
  · cases hDropped

end Store

/-- What a user reaches who asks for a channel, or for another user: a result without any change, or the
direct conversation of the two, which was opened. -/
inductive Reaches (user other : String) (r : Relay) : Except RelayError String → Relay → Prop
  | same (result : Except RelayError String) : Reaches user other r result r
  | opened {s : Store} (h : r.store.Opened user other s) :
      Reaches user other r (.ok (directChannel user other)) { r with store := s }

theorem openDirect_reaches {other : String} (hLinked : r.store.database.Linked) (hOther : user ≠ other)
    {result : Except RelayError String} (h : (openDirect user other).MayEnd r result r') :
    Reaches user other r result r' := by
  unfold openDirect at h
  obtain ⟨e, rfl, hCall⟩ | ⟨made, r₁, hCall, hRest⟩ := mayEnd_bind.1 h
  · obtain ⟨answer, s, hDo, rfl, hError⟩ := mayEnd_call.1 hCall
    cases answer with
    | ok made => contradiction
    | error cause =>
      obtain rfl : s = r.store := hDo.tells hLinked
      exact .same _
  · obtain ⟨answer, s, hDo, rfl, hOk⟩ := mayEnd_call.1 hCall
    obtain ⟨rfl, rfl⟩ := mayEnd_pure.1 hRest
    obtain rfl | ⟨made, rfl, hNone, hOpened⟩ := (hDo.tells hLinked).cases
    · exact .same _
    · exact .opened ⟨hOther, hNone, hOpened⟩

theorem resolve_reaches (hLinked : r.store.database.Linked) {result : Except RelayError String}
    (h : (resolve user token).MayEnd r result r') : Reaches user token r result r' := by
  unfold resolve at h
  obtain ⟨e, rfl, hClassify⟩ | ⟨d, r₁, hClassify, hRest⟩ := mayEnd_bind.1 h
  · obtain ⟨rfl, -⟩ := (classify_reads user token).mayEnd hClassify
    exact .same _
  cases d with
  | channel id =>
    obtain ⟨rfl, -⟩ := (classify_reads user token).mayEnd hClassify
    obtain ⟨-, rfl⟩ := mayEnd_pure.1 hRest
    exact .same _
  | direct other =>
    obtain ⟨rfl, rfl, hOther⟩ := classify_mayEnd_direct hClassify
    exact openDirect_reaches hLinked hOther hRest
  | missing =>
    obtain ⟨rfl, -⟩ := (classify_reads user token).mayEnd hClassify
    obtain ⟨-, rfl⟩ := mayEnd_throw.1 hRest
    exact .same _

theorem createDirect_reaches {target : String} (hLinked : r.store.database.Linked)
    {result : Except RelayError String} (h : (createDirect user target).MayEnd r result r') :
    Reaches user target r result r' := by
  unfold createDirect at h
  split at h
  · obtain ⟨-, rfl⟩ := mayEnd_throw.1 h
    exact .same _
  rename_i hOther
  obtain ⟨e, rfl, hKnown⟩ | ⟨known, r₁, hKnown, hRest⟩ := mayEnd_bind.1 h
  · obtain ⟨rfl, -⟩ := (Reads.call (c := .userExists target) trivial).mayEnd hKnown
    exact .same _
  obtain ⟨rfl, -⟩ := (Reads.call (c := .userExists target) trivial).mayEnd hKnown
  cases known with
  | true => exact openDirect_reaches hLinked hOther hRest
  | false =>
    obtain ⟨-, rfl⟩ := mayEnd_throw.1 hRest
    exact .same _

/-! ### Denials -/

/-- What an operation for a user leaves of the store, beside what it stores itself: nothing has changed, but
that a conversation with `other` may have been opened; and if the user is denied, nothing has. -/
structure Grants {α : Type} (user other : String) (r : Relay) (result : Except RelayError α) (s : Store) :
    Prop where
  opens : r.store.OpensAtMost user other s
  denied : ∀ e, result = .error e → e.Denies → s = r.store

theorem Grants.same {α : Type} (user other : String) (r : Relay) (result : Except RelayError α) :
    Grants user other r result r.store :=
  ⟨.inl rfl, fun _ _ _ => rfl⟩

theorem Reaches.grants {other : String} {result : Except RelayError String}
    (h : Reaches user other r result r') :
    Grants user other r result r'.store := by
  cases h with
  | same => exact .same ..
  | opened h => exact ⟨.inr h, fun e hError => by contradiction⟩

/-- Of a store that can be used, or not, `authorize` says what `access` says, or a call fails. -/
theorem authorize_mayEnd_denied {e : RelayError} (h : (authorize user channel).MayEnd r (.error e) r')
    (hDenies : e.Denies) : r.store.database.access user channel = .error e := by
  obtain ⟨-, hRun | ⟨cause, hCause⟩⟩ := (authorize_reads user channel).mayEnd h
  · cases hPoisoned : r.store.poisoned with
    | false =>
      rw [authorize_runOn hPoisoned] at hRun
      exact hRun.symm
    | true =>
      have hFailed : Operation.runOn (authorize user channel) r = (.error (.storage .poisoned), r) :=
        Operation.runOn_bind_of_error
          (Operation.runOn_bind_of_error (Operation.runOn_call_of_poisoned (.kindText channel) hPoisoned))
      rw [hFailed] at hRun
      cases hRun
      exact False.elim hDenies
  · cases hCause
    exact False.elim hDenies

/-- Whoever finds a channel and then may not see it has not opened it. -/
theorem Reaches.authorize {other : String} {r₁ r₂ : Relay} {result : Except RelayError ChannelKind}
    (h : Reaches user other r (.ok channel) r₁) (hLinked : r.store.database.Linked)
    (hAuthorize : (authorize user channel).MayEnd r₁ result r₂) :
    r₂ = r₁ ∧ Grants user other r result r₁.store := by
  refine ⟨((authorize_reads user channel).mayEnd hAuthorize).1, ?_⟩
  cases h with
  | same => exact .same ..
  | opened h =>
    refine ⟨.inr h, fun e hError hDenies => ?_⟩
    subst hError
    have hAccess := h.access hLinked
    rw [authorize_mayEnd_denied hAuthorize hDenies] at hAccess
    contradiction

theorem Grants.of_error {α β : Type} {other : String} {e : RelayError} {s : Store}
    (h : Grants (α := α) user other r (.error e) s) : Grants (α := β) user other r (.error e) s :=
  ⟨h.opens, fun e' hError => h.denied e' (by rw [Except.error.inj hError])⟩

theorem Grants.of_opens {α : Type} {other : String} {result : Except RelayError α} {s : Store}
    (h : r.store.OpensAtMost user other s) (hResult : ∀ e, result = .error e → ¬ e.Denies) :
    Grants user other r result s :=
  ⟨h, fun e hError hDenies => absurd hDenies (hResult e hError)⟩

/-- What goes on once a user has found a channel and may see it: it fails before, or is begun with a store in
which the conversation may have been opened. -/
theorem seen_mayEnd {α : Type} {f : String → Operation α} (hLinked : r.store.database.Linked)
    {result : Except RelayError α}
    (h : (do
      let channel ← resolve user token
      let _ ← authorize user channel
      f channel : Operation α).MayEnd r result r') :
    (∃ e, result = .error e ∧ Grants (α := α) user token r (.error e) r'.store) ∨
      ∃ channel r₁, r.store.OpensAtMost user token r₁.store ∧ (f channel).MayEnd r₁ result r' := by
  obtain ⟨e, rfl, hResolve⟩ | ⟨channel, r₁, hResolve, hRest⟩ := mayEnd_bind.1 h
  · exact .inl ⟨e, rfl, (resolve_reaches hLinked hResolve).grants.of_error⟩
  have hReaches := resolve_reaches hLinked hResolve
  obtain ⟨e, rfl, hAuthorize⟩ | ⟨kind, r₂, hAuthorize, hNext⟩ := mayEnd_bind.1 hRest
  · obtain ⟨rfl, hGrants⟩ := hReaches.authorize hLinked hAuthorize
    exact .inl ⟨e, rfl, hGrants.of_error⟩
  · obtain ⟨rfl, hGrants⟩ := hReaches.authorize hLinked hAuthorize
    exact .inr ⟨channel, r₂, hGrants.opens, hNext⟩

theorem history_mayEnd {ceiling : Nat} {limit : Option Nat} {before : Option Int64}
    (hLinked : r.store.database.Linked) {result : Except RelayError (List Message)}
    (h : (history ceiling user token limit before).MayEnd r result r') :
    Grants user token r result r'.store := by
  obtain ⟨e, rfl, hGrants⟩ | ⟨channel, r₁, hOpens, hRead⟩ := seen_mayEnd hLinked h
  · exact hGrants
  obtain ⟨rfl, -⟩ := (storedHistory_reads channel _ before).mayEnd hRead
  refine .of_opens hOpens fun e hError => ?_
  subst hError
  obtain ⟨e', hSame, hCall⟩ | ⟨rows, r₂, -, hRest⟩ := mayEnd_bind.1 hRead
  · obtain ⟨cause, rfl⟩ := Operation.mayEnd_call_error hCall
    cases hSame
    exact id
  · exact absurd (mayEnd_pure.1 hRest).1 (by simp)

/-! ### Posting -/

/-- The store with another message.  Where messages take their channels away, its channel is gone. -/
def Store.withMessage (s : Store) (m : Message) : Store :=
  let db := if s.database.faults.vanishChannels then s.database.removeChannel m.channel else s.database
  { s with database := { db with messages := s.database.messages ++ [.ofMessage m] } }

theorem Store.Call.Heeded.insertMessage {s s' : Store} {m : Message} {answer : Except Store.Error Unit}
    (h : (Call.insertMessage (.ofMessage m)).Heeded s answer s') :
    (answer = .ok () ∧ s' = s.withMessage m) ∨ ∃ cause, answer = .error cause ∧ s' = s := by
  obtain hCall | ⟨cause, rfl, rfl⟩ | hOpen := h
  · unfold Store.call at hCall
    split at hCall
    · obtain ⟨rfl, rfl⟩ := Prod.mk.inj hCall
      exact .inr ⟨_, rfl, rfl⟩
    split at hCall
    · rename_i found db hApply
      obtain ⟨rfl, rfl⟩ := Prod.mk.inj hCall
      obtain ⟨-, db₁, hKept, rfl⟩ := Database.insertMessage_eq_ok (Call.change_ok hApply)
      refine .inl ⟨rfl, ?_⟩
      unfold withMessage
      obtain ⟨hStays, rfl⟩ | ⟨hVanishes, rfl⟩ := hKept
      · simp only [hStays, Bool.false_eq_true, if_false]
      · simp only [hVanishes, if_true]
        rfl
    · obtain ⟨rfl, rfl⟩ := Prod.mk.inj hCall
      exact .inr ⟨_, rfl, rfl⟩
  · exact .inr ⟨cause, rfl, rfl⟩
  · exact False.elim hOpen

/-- What a message that the database takes leaves of the store: it is there, or it was dropped. -/
def Store.TakesAtMost (m : Message) (s s' : Store) : Prop :=
  s' = s.withMessage m ∨ s' = s

theorem Store.Call.MayDo.insertMessage {s s' : Store} {m : Message} {answer : Except Store.Error Unit}
    (h : (Call.insertMessage (.ofMessage m)).MayDo s answer s') :
    (answer = .ok () ∧ s.TakesAtMost m s') ∨ ∃ cause, answer = .error cause ∧ s' = s := by
  obtain hHeeded | hDropped := h
  · exact hHeeded.insertMessage.imp (fun h => ⟨h.1, .inl h.2⟩) id
  · cases hDropped
    exact .inl ⟨rfl, .inr rfl⟩

theorem mayEnd_stamp {wall : Int64} {result : Except RelayError Int64}
    (h : Operation.MayEnd (Operation.perform (.stamp wall)) r result r') :
    result = .ok (max r.lastStamp wall) ∧ r' = { r with lastStamp := max r.lastStamp wall } := by
  obtain ⟨_, rfl, answer, r₁, hDo, rfl, rfl⟩ := mayEnd_lift.1 h
  obtain ⟨rfl, rfl⟩ := Prod.mk.inj hDo
  exact ⟨rfl, rfl⟩

theorem append_mayEnd {sender : String} {req : SendRequest} {fresh : Fresh}
    {result : Except RelayError Message} (h : (append sender channel req fresh).MayEnd r result r') :
    (∃ m, result = .ok m ∧ r.store.TakesAtMost m r'.store) ∨
      ∃ cause, result = .error (.storage cause) ∧ r'.store = r.store := by
  unfold append at h
  obtain ⟨e, rfl, hStamp⟩ | ⟨timestamp, r₁, hStamp, h⟩ := mayEnd_bind.1 h
  · exact absurd (mayEnd_stamp hStamp).1 (by simp)
  obtain ⟨-, rfl⟩ := mayEnd_stamp hStamp
  obtain ⟨e, rfl, hInsert⟩ | ⟨_, r₂, hInsert, hRest⟩ := mayEnd_bind.1 h
  · obtain ⟨answer, s, hDo, rfl, hError⟩ := mayEnd_call.1 hInsert
    obtain ⟨rfl, -⟩ | ⟨cause, rfl, rfl⟩ := hDo.insertMessage
    · contradiction
    · cases hError
      exact .inr ⟨cause, rfl, rfl⟩
  · obtain ⟨answer, s, hDo, rfl, hOk⟩ := mayEnd_call.1 hInsert
    obtain ⟨rfl, rfl⟩ := mayEnd_pure.1 hRest
    obtain ⟨-, hTakes⟩ | ⟨cause, rfl, -⟩ := hDo.insertMessage
    · exact .inl ⟨_, rfl, hTakes⟩
    · contradiction

theorem broadcast_mayEnd {m : Message} {result : Except RelayError Delivery}
    (h : (broadcast m).MayEnd r result r') : r'.store = r.store :=
  (broadcast_uses m).mayEnd (P := fun r₁ => r₁.store = r.store)
    (fun _ _ _ _ hTells hDo hSame => (hDo.store_of_tells hTells).trans hSame) h rfl

/-- What a post leaves of the store. -/
def PostGrants (sender destination : String) (r : Relay) : Except RelayError Message → Store → Prop
  | .ok m, s => ∃ s₁, r.store.OpensAtMost sender destination s₁ ∧ s₁.TakesAtMost m s
  | .error e, s => Grants (α := Message) sender destination r (.error e) s

theorem post_mayEnd {sender : String} {req : SendRequest} {fresh : Fresh}
    (hLinked : r.store.database.Linked) {result : Except RelayError Message}
    (h : (post sender req fresh).MayEnd r result r') :
    PostGrants sender req.destination r result r'.store := by
  obtain ⟨e, rfl, hGrants⟩ | ⟨channel, r₁, hOpens, hRest⟩ := seen_mayEnd hLinked h
  · exact hGrants
  obtain ⟨e, rfl, hAppend⟩ | ⟨m, r₂, hAppend, hTell⟩ := mayEnd_bind.1 hRest
  · obtain ⟨m, hOk, -⟩ | ⟨cause, hError, hSame⟩ := append_mayEnd hAppend
    · contradiction
    · cases hError
      rw [hSame]
      exact .of_opens hOpens fun e hError => by cases hError; exact id
  obtain ⟨m', hOk, hTakes⟩ | ⟨cause, hError, -⟩ := append_mayEnd hAppend
  · obtain rfl := Except.ok.inj hOk
    obtain ⟨rfl, hStays⟩ := (saved_broadcast m).mayEnd hTell
    exact ⟨r₁.store, hOpens, hStays ▸ hTakes⟩
  · contradiction

theorem Store.OpensAtMost.messages {other : String} {s s' : Store} (h : s.OpensAtMost user other s') :
    s'.database.messages = s.database.messages := by
  obtain rfl | ⟨-, -, rfl⟩ := h <;> rfl

/-- If no insert is dropped, the message of a post that succeeds is there. -/
theorem post_mayEndHeeded {sender : String} {req : SendRequest} {fresh : Fresh} {m : Message}
    (hLinked : r.store.database.Linked) (h : (post sender req fresh).MayEndHeeded r (.ok m) r') :
    ∃ s, r.store.OpensAtMost sender req.destination s ∧ r'.store = s.withMessage m := by
  obtain ⟨s, hOpens, hStored | hSame⟩ := post_mayEnd hLinked h.mayEnd
  · exact ⟨s, hOpens, hStored⟩
  · have hRows := (post_unsaved sender req fresh).messages_of_heeded h
    rw [hSame, hOpens.messages] at hRows
    simp at hRows

/-- If the database drops the message of a post, its sender is answered all the same, and the store is as it
was. -/
theorem post_mayEnd_of_dropped {sender : String} {req : SendRequest} {kind : ChannelKind}
    (hUsable : r.store.poisoned = false)
    (hResolve : (resolve sender req.destination).MayEnd r (.ok channel) r)
    (hAuthorize : (authorize sender channel).MayEnd r (.ok kind) r) (fresh : Fresh) :
    ∃ m r', (post sender req fresh).MayEnd r (.ok m) r' ∧ r'.store = r.store := by
  obtain ⟨m, stamped, hAppend, hSame⟩ : ∃ m r₁,
      (append sender channel req fresh).MayEnd r (.ok m) r₁ ∧ r₁.store = r.store := by
    have hStamp := Operation.mayEnd_runOn (Operation.perform (.stamp fresh.wall)) r
    have hInsert : ∀ row (r₁ : Relay), r₁.store = r.store →
        (Operation.call (.insertMessage row)).MayEnd r₁ (.ok ()) r₁ := fun row r₁ hSame =>
      mayEnd_call.2 ⟨.ok (), r₁.store, .inr (.message row (hSame ▸ hUsable)), rfl, rfl⟩
    exact ⟨_, _, mayEnd_bind.2 (.inr ⟨_, _, hStamp,
      mayEnd_bind.2 (.inr ⟨(), _, hInsert _ _ rfl, mayEnd_pure.2 ⟨rfl, rfl⟩⟩)⟩), rfl⟩
  have hTell := Operation.mayEnd_runOn (do
    let _ ← Operation.attempt (broadcast m)
    return m) stamped
  obtain ⟨hOk, hStays⟩ := (saved_broadcast m).mayEnd hTell
  rw [hOk] at hTell
  refine ⟨m, _, mayEnd_bind.2 (.inr ⟨channel, r, hResolve, ?_⟩), hStays.trans hSame⟩
  exact mayEnd_bind.2 (.inr ⟨kind, r, hAuthorize, mayEnd_bind.2 (.inr ⟨m, stamped, hAppend, hTell⟩)⟩)

/-! ### Every operation -/

/-- What each operation of a user leaves of the store, however it may end. -/
structure StoreEffects (user : String) (r : Relay) : Prop where
  listChannels : ∀ result r', (listChannels user).MayEnd r result r' → r'.store = r.store
  listMembers : ∀ channel result r', (listMembers user channel).MayEnd r result r' → r'.store = r.store
  authorize : ∀ channel result r', (authorize user channel).MayEnd r result r' → r'.store = r.store
  broadcast : ∀ m result r', (broadcast m).MayEnd r result r' → r'.store = r.store
  resolve : ∀ token result r', (resolve user token).MayEnd r result r' → Grants user token r result r'.store
  history : ∀ ceiling token limit before result r',
    (history ceiling user token limit before).MayEnd r result r' → Grants user token r result r'.store
  createDirect : ∀ target result r', (createDirect user target).MayEnd r result r' →
    Grants user target r result r'.store
  post : ∀ req fresh result r', (post user req fresh).MayEnd r result r' →
    PostGrants user req.destination r result r'.store
  stored : ∀ req fresh m r', (ChatRelay.post user req fresh).MayEndHeeded r (.ok m) r' →
    ∃ s, r.store.OpensAtMost user req.destination s ∧ r'.store = s.withMessage m

/-- The exact effect of every operation on the store.  Start with any store whose memberships are of channels
that are there, and let each call on it fail, what an opening inserts be refused or dropped, and any other
insert be dropped.  Then `listChannels`, `listMembers`, `authorize` and `broadcast` leave the store as it
was.  `resolve`, `history` and `createDirect` add at most the direct conversation of the user and the one who
is named, with both members, if it was not there.  `post` adds at most one message to that if it succeeds,
just one if its insert is not dropped, and none if it fails; with the message its channel goes, if messages
take their channels away.  And whoever is told that the channel is missing, or is forbidden, has changed
nothing. -/
theorem store_effects (hLinked : r.store.database.Linked) (user : String) : StoreEffects user r where
  listChannels _ _ h := by rw [((listChannels_reads user).mayEnd h).1]
  listMembers channel _ _ h := by rw [((listMembers_reads user channel).mayEnd h).1]
  authorize channel _ _ h := by rw [((authorize_reads user channel).mayEnd h).1]
  broadcast _ _ _ h := broadcast_mayEnd h
  resolve _ _ _ h := (resolve_reaches hLinked h).grants
  history _ _ _ _ _ _ h := history_mayEnd hLinked h
  createDirect _ _ _ h := (createDirect_reaches hLinked h).grants
  post _ _ _ _ h := post_mayEnd hLinked h
  stored _ _ _ _ h := post_mayEndHeeded hLinked h

/-- A first message to a user, which is refused: the conversation stays, and no message. -/
theorem store_effects_refused :
    let r : Relay := .ofDatabase
      { Database.fresh with users.rows := [⟨"bob", "bob", none⟩], faults.rejectMessages := true } 1
    ∃ r', (post "ann" ⟨"bob", [1], [], [], .text⟩ ⟨.zero, 5⟩).MayEnd r
        (.error (.storage (.engine "disk full"))) r' ∧
      r.store.Opened "ann" "bob" r'.store ∧ StoreEffects "ann" r := by
  intro r
  have hEnd := Operation.mayEnd_runOn (post "ann" ⟨"bob", [1], [], [], .text⟩ ⟨.zero, 5⟩) r
  refine ⟨_, hEnd, ⟨by decide, rfl, rfl⟩, store_effects (r := r) ?_ "ann"⟩
  exact fun m hm => by simp [r, Relay.ofDatabase, Database.fresh] at hm

/-- Each post of a user that succeeds adds its message to the store, and nothing else but what opens a
conversation. -/
def PostsAddOne (user : String) (r : Relay) : Prop :=
  ∀ req fresh m r', (post user req fresh).MayEnd r (.ok m) r' →
    ∃ s, r.store.OpensAtMost user req.destination s ∧
      r'.store = { s with database.messages := s.database.messages ++ [.ofMessage m] }

/-- Not every post that succeeds adds just its message.  Where the database drops the message, the post adds
nothing; where messages take their channels away, `general` goes when the message comes. -/
theorem posts_add_none_or_take_away :
    let plain : Relay := .ofDatabase Database.fresh 1
    let vanishing : Relay := .ofDatabase { Database.fresh with faults.vanishChannels := true } 1
    (plain.store.database.Linked ∧ ¬ PostsAddOne "ann" plain) ∧
      vanishing.store.database.Linked ∧ ¬ PostsAddOne "ann" vanishing := by
  intro plain vanishing
  let req : SendRequest := ⟨"general", [1], [], [], .text⟩
  have hLinked : Database.fresh.Linked := fun m hm => by simp [Database.fresh] at hm
  refine ⟨⟨hLinked, fun hAdd => ?_⟩, hLinked, fun hAdd => ?_⟩
  · have hResolve : (resolve "ann" req.destination).MayEnd plain (.ok "general") plain :=
      Operation.mayEnd_runOn _ plain
    have hAuthorize : (authorize "ann" "general").MayEnd plain (.ok .shared) plain :=
      Operation.mayEnd_runOn _ plain
    obtain ⟨m, r', hEnd, hSame⟩ := post_mayEnd_of_dropped rfl hResolve hAuthorize ⟨.zero, 5⟩
    obtain ⟨s, hOpens, hStored⟩ := hAdd _ _ _ _ hEnd
    have hRows := congrArg (·.database.messages) (hSame.symm.trans hStored)
    simp [hOpens.messages] at hRows
  · have hEnd := Operation.mayEnd_runOn (post "ann" req ⟨.zero, 5⟩) vanishing
    obtain ⟨s, hOpens, hStored⟩ := hAdd req _ _ _ hEnd
    have hGone := congrArg (·.database.channel? "general") hStored
    obtain rfl | ⟨-, -, rfl⟩ := hOpens <;> exact absurd hGone (by decide)

end ChatRelay
