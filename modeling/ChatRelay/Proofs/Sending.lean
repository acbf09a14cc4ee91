import ChatRelay.Connection
import ChatRelay.Http.App
import ChatRelay.Proofs.Persistence
import ChatRelay.Proofs.Requests

/-! A message sent by a request and one sent by a live frame.  Both read the same bytes and end in the same
post, so what they do differs in what the two messages were given, an id and a time, and in how a sender is
told of an error: by a status, or by a code in a frame of its own.  `Twins` says what the two have in
common. -/

namespace ChatRelay

open Operation (runOn runOn_bind_of_ok runOn_bind_of_error runOn_attempt runOn_perform)
open Store (Database MessageRow)

variable {r r' : Relay} {sender channel : String} {req : SendRequest}

/-! ### Storing a message -/

/-- The message that a request makes. -/
def SendRequest.message (req : SendRequest) (sender channel : String) (id : Uuid) (timestamp : Int64) :
    Message where
  id
  channel
  sender
  timestamp
  kind := req.kind
  content := req.content
  nonce := req.nonce
  signature := req.signature

@[simp] theorem SendRequest.channel_message (req : SendRequest) (sender channel : String) (id : Uuid)
    (timestamp : Int64) : (req.message sender channel id timestamp).channel = channel :=
  rfl

/-- Storing a message takes the next time and adds its row, or fails as the store does. -/
theorem append_runOn (hUsable : r.store.poisoned = false) (sender channel : String) (req : SendRequest)
    (fresh : Fresh) :
    runOn (append sender channel req fresh) r =
      let m := req.message sender channel fresh.id (max r.lastStamp fresh.wall)
      match r.store.database.insertMessage (.ofMessage m) with
      | .ok database => (.ok m, { r with store.database := database, lastStamp := m.timestamp })
      | .error cause => (.error (.storage cause), { r with lastStamp := m.timestamp }) := by
  have hInsert := Operation.runOn_insertMessage (r := { r with lastStamp := max r.lastStamp fresh.wall }) hUsable
    (.ofMessage (req.message sender channel fresh.id (max r.lastStamp fresh.wall)))
  unfold append
  rw [runOn_bind_of_ok (runOn_perform (.stamp fresh.wall) r)]
  dsimp only at hInsert ⊢
  cases h : r.store.database.insertMessage
      (.ofMessage (req.message sender channel fresh.id (max r.lastStamp fresh.wall))) with
  | ok database =>
    rw [h] at hInsert
    exact runOn_bind_of_ok hInsert
  | error cause =>
    rw [h] at hInsert
    exact runOn_bind_of_error hInsert

namespace Store.Database

/-- Some message is stored under the id. -/
def Holds (db : Database) (id : Uuid) : Prop :=
  ∃ row ∈ db.messages, row.id = id.toString

/-- A store treats alike two messages for one channel that are both new to it, or both not. -/
theorem insertMessage_alike (db : Database) (m m' : Message) (hChannel : m'.channel = m.channel)
    (hIds : db.Holds m.id ↔ db.Holds m'.id) :
    (∃ cause, db.insertMessage (.ofMessage m) = .error cause ∧
        db.insertMessage (.ofMessage m') = .error cause) ∨
      ∃ base : Database, base.messages = db.messages ∧
        db.insertMessage (.ofMessage m) = .ok { base with messages := base.messages ++ [.ofMessage m] } ∧
        db.insertMessage (.ofMessage m') =
          .ok { base with messages := base.messages ++ [.ofMessage m'] } := by
  have hRow (n : Message) : db.messages.any (·.id = (MessageRow.ofMessage n).id) ↔ db.Holds n.id := by
    simp only [List.any_eq_true, decide_eq_true_iff]
    rfl
  unfold insertMessage
  by_cases hReject : db.faults.rejectMessages
  · rw [if_pos hReject, if_pos hReject]
    exact .inl ⟨_, rfl, rfl⟩
  rw [if_neg hReject, if_neg hReject]
  by_cases hHeld : db.Holds m.id
  · rw [if_pos ((hRow m).2 hHeld), if_pos ((hRow m').2 (hIds.1 hHeld))]
    exact .inl ⟨_, rfl, rfl⟩
  · rw [if_neg fun h => hHeld ((hRow m).1 h), if_neg fun h => hHeld (hIds.2 ((hRow m').1 h))]
    have hSame : (MessageRow.ofMessage m').channel = (MessageRow.ofMessage m).channel := hChannel
    rw [hSame]
    refine .inr ⟨if db.faults.vanishChannels then db.removeChannel (MessageRow.ofMessage m).channel
      else db, ?_, rfl, rfl⟩
    split <;> rfl

end Store.Database

/-! ### Two posts of one request -/

/-- The relay after a message is stored and fanned out. -/
def Relay.posted (r : Relay) (m : Message) : Relay :=
  Relay.spread
    { r with
      store.database.messages := r.store.database.messages ++ [.ofMessage m]
      lastStamp := m.timestamp } m

/-- What is left of a post once its channel is found. -/
def postTo (sender channel : String) (req : SendRequest) (fresh : Fresh) : Operation Message := do
  let m ← append sender channel req fresh
  let _ ← Operation.attempt (broadcast m)
  return m

theorem runOn_of_browses {α : Type} {op : Operation α} (h : op.Uses Action.Browses) (r : Relay) :
    (runOn op r).2.registry = r.registry ∧ (runOn op r).2.lastStamp = r.lastStamp ∧
      (runOn op r).2.store.database.messages = r.store.database.messages := by
  refine ⟨registry_runOn h (fun _ h => h.not_onRegistry) r, ?_, ?_⟩
  · refine h.runOn (P := fun r₁ => r₁.lastStamp = r.lastStamp) ?_ rfl
    intro action r₁ hAction hSame
    obtain hRead | ⟨a, b, -, rfl⟩ := hAction
    · rw [Action.perform_of_isRead hRead, hSame]
    · exact hSame
  · refine h.runOn (P := fun r₁ => r₁.store.database.messages = r.store.database.messages) ?_ rfl
    intro action r₁ hAction hSame
    rw [hAction.isQuiet.messages_perform, hSame]

/-- A post finds its channel and goes on, or fails, and does so alike whatever its message would be
given. -/
theorem post_runOn_cases (sender : String) (req : SendRequest) (r : Relay) :
    ∃ r₁ : Relay, r₁.registry = r.registry ∧ r₁.lastStamp = r.lastStamp ∧
      r₁.store.database.messages = r.store.database.messages ∧
      ((∃ e, ∀ fresh, runOn (post sender req fresh) r = (.error e, r₁)) ∨
        r₁.store.poisoned = false ∧ ∃ channel, ∀ fresh,
          runOn (post sender req fresh) r = runOn (postTo sender channel req fresh) r₁) := by
  rcases hResolve : runOn (resolve sender req.destination) r with ⟨found, r₁⟩
  obtain ⟨hRegistry₁, hTime₁, hRows₁⟩ := runOn_of_browses (resolve_uses sender req.destination) r
  rw [hResolve] at hRegistry₁ hTime₁ hRows₁
  cases found with
  | error e =>
    exact ⟨r₁, hRegistry₁, hTime₁, hRows₁, .inl ⟨e, fun fresh => runOn_bind_of_error hResolve⟩⟩
  | ok channel =>
    rcases hAuthorize : runOn (authorize sender channel) r₁ with ⟨allowed, r₂⟩
    obtain ⟨hRegistry₂, hTime₂, hRows₂⟩ :=
      runOn_of_browses ((authorize_uses sender channel).mono fun _ => .inl) r₁
    have hPoisoned := poisoned_runOn (authorize sender channel) r₁
    rw [hAuthorize] at hRegistry₂ hTime₂ hRows₂ hPoisoned
    refine ⟨r₂, hRegistry₂.trans hRegistry₁, hTime₂.trans hTime₁, hRows₂.trans hRows₁, ?_⟩
    cases allowed with
    | error e =>
      exact .inl ⟨e, fun fresh => (runOn_bind_of_ok hResolve).trans (runOn_bind_of_error hAuthorize)⟩
    | ok kind =>
      have hUsable : r₁.store.poisoned = false := usable_of_authorize_isOk (by rw [hAuthorize]; rfl)
      exact .inr ⟨hPoisoned.trans hUsable, channel, fun fresh =>
        (runOn_bind_of_ok hResolve).trans (runOn_bind_of_ok hAuthorize)⟩

theorem postTo_of_append {fresh : Fresh} {m : Message}
    (h : runOn (append sender channel req fresh) r = (.ok m, r')) :
    runOn (postTo sender channel req fresh) r = (.ok m, r'.spread m) := by
  unfold postTo
  rw [runOn_bind_of_ok h, runOn_bind_of_ok (runOn_attempt (broadcast m) r'), Operation.runOn_pure,
    broadcast_runOn (usable_of_append_ok h)]

/-- Two runs of a post both fail for one reason, or store the same message but for its id and its time, and
fan it out to the same audience. -/
inductive PostedAlike (r : Relay) (fresh fresh' : Fresh) :
    Except RelayError Message × Relay → Except RelayError Message × Relay → Prop
  | failed (e : RelayError) {r₁ r₁' : Relay} (hStore : r₁'.store = r₁.store)
      (hRegistry : r₁.registry = r.registry) (hRegistry' : r₁'.registry = r.registry) :
      PostedAlike r fresh fresh' (.error e, r₁) (.error e, r₁')
  | stored {base : Relay} {m m' : Message} (hRegistry : base.registry = r.registry)
      (hRows : base.store.database.messages = r.store.database.messages)
      (hId : m.id = fresh.id) (hTime : m.timestamp = max r.lastStamp fresh.wall)
      (hSame : m' = { m with id := fresh'.id, timestamp := max r.lastStamp fresh'.wall }) :
      PostedAlike r fresh fresh' (.ok m, base.posted m) (.ok m', base.posted m')

theorem post_alike (sender : String) (req : SendRequest) {fresh fresh' : Fresh}
    (hIds : r.store.database.Holds fresh.id ↔ r.store.database.Holds fresh'.id) :
    PostedAlike r fresh fresh' (runOn (post sender req fresh) r) (runOn (post sender req fresh') r) := by
  obtain ⟨r₁, hRegistry, hTime, hRows, ⟨e, hFail⟩ | ⟨hUsable, channel, hGo⟩⟩ :=
    post_runOn_cases sender req r
  · rw [hFail, hFail]
    exact .failed e rfl hRegistry hRegistry
  have hHolds (id : Uuid) : r₁.store.database.Holds id ↔ r.store.database.Holds id := by
    unfold Database.Holds
    rw [hRows]
  have hAppend := append_runOn hUsable sender channel req fresh
  have hAppend' := append_runOn hUsable sender channel req fresh'
  dsimp only at hAppend hAppend'
  rw [hGo, hGo]
  obtain ⟨cause, hRefused, hRefused'⟩ | ⟨base, hBase, hStored, hStored'⟩ :=
    r₁.store.database.insertMessage_alike
      (req.message sender channel fresh.id (max r₁.lastStamp fresh.wall))
      (req.message sender channel fresh'.id (max r₁.lastStamp fresh'.wall))
      (by rw [SendRequest.channel_message, SendRequest.channel_message])
      ((hHolds _).trans (hIds.trans (hHolds _).symm))
  · rw [hRefused] at hAppend
    rw [hRefused'] at hAppend'
    unfold postTo
    rw [runOn_bind_of_error hAppend, runOn_bind_of_error hAppend']
    exact .failed (.storage cause) rfl hRegistry hRegistry
  · rw [hStored] at hAppend
    rw [hStored'] at hAppend'
    rw [postTo_of_append hAppend, postTo_of_append hAppend']
    have hBaseRows := hBase.trans hRows
    rw [hTime]
    exact @PostedAlike.stored _ _ _ { r₁ with store.database := base } _ _ hRegistry hBaseRows rfl rfl rfl

/-! ### A live frame -/

/-- The status that answers a request where an error frame gives `code`. -/
def ErrorCode.status : ErrorCode → Nat
  | malformed => 400
  | channelMissing => 404
  | forbidden => 403
  | storageFailure => 500

/-- The relay after a connection was told of an error, if it is told of errors. -/
def Relay.tell (r : Relay) (acks : Bool) (id : ConnectionId) (code : ErrorCode)
    (destination : Option String) : Relay :=
  if acks then
    { r with registry := (r.registry.sendTo id (Wire.encode (ServerFrame.error ⟨⟨code, destination⟩⟩))).2 }
  else r

theorem sendError_run (acks : Bool) (id : ConnectionId) (code : ErrorCode) (destination : Option String)
    (r : Relay) :
    ((if acks then sendError id code destination else pure () : Activity Unit).run r).2 =
      r.tell acks id code destination := by
  cases acks <;> rfl

theorem handleFrame_run_malformed {raw : List UInt8}
    (hRaw : (Wire.decode? raw : Option SendRequest) = none) (acks : Bool) (id : ConnectionId)
    (fresh : Fresh) (r : Relay) :
    ((handleFrame acks id raw fresh).run r).2 = r.tell acks id .malformed none := by
  unfold handleFrame
  rw [hRaw]
  exact sendError_run acks id .malformed none r

theorem handleFrame_run {raw : List UInt8} (hRaw : Wire.decode? raw = some req) (acks : Bool)
    (id : ConnectionId) (fresh : Fresh) (r : Relay) :
    ((handleFrame acks id raw fresh).run r).2 =
      match runOn (post id.user req fresh) r with
      | (.ok _, r') => r'
      | (.error e, r') => r'.tell acks id e.code (some req.destination) := by
  unfold handleFrame
  rw [hRaw]
  dsimp only
  rw [Activity.run_bind]
  rcases hPost : runOn (post id.user req fresh) r with ⟨result, r'⟩
  have hRun : Activity.run (post id.user req fresh).run r = (result, r') := hPost
  rw [hRun]
  cases result with
  | ok m => rfl
  | error e => exact sendError_run acks id e.code _ r'

theorem Session.step_run_frame {s : Session} (hRunning : s.running) (acks : Bool) (raw : List UInt8)
    (fresh : Fresh) (r : Relay) :
    ((s.step acks (.arrival (.frame raw fresh))).run r).2 =
      ((handleFrame acks s.id raw fresh).run r).2 := by
  unfold Session.step
  rw [if_pos hRunning, Session.react, Activity.run_bind]
  rfl

/-! ### A request -/

namespace Http

theorem Error.status_relay (e : RelayError) : (Error.relay e).status = e.code.status := by
  cases e <;> rfl

/-- A request whose body is read as JSON: it says so, and the body is not too long. -/
structure Request.HasJson (req : Request) : Prop where
  type : ∃ value, req.header? "content-type" = some value ∧ isHeaderText value ∧ MediaType.isJson value
  size : req.body.length ≤ bodyLimit

theorem Request.HasJson.body?_eq {α : Type} [Wire α] {req : Request} (h : req.HasJson) :
    (body? req : Except Error α) =
      match Wire.decode? req.body with
      | some a => .ok a
      | none => .error (.badRequest "invalid request") := by
  obtain ⟨value, hValue, hText, hType⟩ := h.type
  unfold body?
  rw [hValue]
  exact if_pos ⟨hText, hType, h.size⟩

/-- A request to send a message, once it is known who sends it, is answered by its handler. -/
theorem respond_run_send (settings : Settings) {req : Request} (hMethod : req.method = "POST")
    (hPath : req.path = "/send") (arrival : Arrival) {user : String} {r : Relay}
    (hUser : (Activity.run (authenticate settings.secret (arrival.wall.toInt / 1000).toNat req).run r).1 =
      .ok user) :
    let answered := (handle settings .send user req arrival.toFresh).run r
    let whole := (respond settings req arrival).run r
    whole.1.status = answered.1.status ∧ whole.1.body = answered.1.body ∧ whole.2 = answered.2 := by
  have hRoute : Route.ofPath? req.path = some .send := by rw [hPath]; rfl
  have hSender : Activity.run (authenticate settings.secret (arrival.wall.toInt / 1000).toNat req).run r =
      (.ok user, r) := Prod.ext hUser (authenticate_run _ _ req r)
  have hDispatch : (dispatch settings req arrival.toFresh).run r =
      (handle settings .send user req arrival.toFresh).run r := by
    rw [dispatch_of_protected hRoute (by simp), protect_run_of_ok hRoute hSender]
    exact if_pos (by rw [hMethod]; rfl)
  have hOther : req.method ≠ "OPTIONS" := by simp [hMethod]
  obtain ⟨hConveys, hRelay⟩ := respond_run settings hOther (by rw [hRoute]; rfl) arrival r
  rw [hDispatch] at hConveys hRelay
  exact ⟨hConveys.status, hConveys.body.trans (if_neg (by simp [hMethod])), hRelay⟩

/-! ### A request and a frame -/

/-- What becomes of a request to send a message and of a frame that says the same, each in the state `r`.
Either both messages are stored and fanned out, and they are the same message but for what each was given;
or both are rejected for corresponding reasons, and have done the same to the store and nothing to the
queues, but for the error that the sender of the frame is told. -/
inductive Twins (r : Relay) (id : ConnectionId) (acks : Bool) (fresh fresh' : Fresh) :
    Response × Relay → Relay → Prop
  | accepted {base : Relay} {m m' : Message} (hRegistry : base.registry = r.registry)
      (hRows : base.store.database.messages = r.store.database.messages)
      (hId : m.id = fresh.id) (hTime : m.timestamp = max r.lastStamp fresh.wall)
      (hSame : m' = { m with id := fresh'.id, timestamp := max r.lastStamp fresh'.wall }) :
      Twins r id acks fresh fresh'
        (.json 200 (SendReply.mk m.id.toString true), base.posted m) (base.posted m')
  | rejected (code : ErrorCode) (destination : Option String) {response : Response} {r₁ r₁' : Relay}
      (hStatus : response.status = code.status) (hStore : r₁'.store = r₁.store)
      (hRegistry : r₁.registry = r.registry)
      (hRegistry' : r₁'.registry = (r.tell acks id code destination).registry) :
      Twins r id acks fresh fresh' (response, r₁) r₁'

/-- To send a message by a request and by a live frame is the same operation.  In every state, for every
user with a running session, and for every body that a request may have, the handler of the request and the
session that receives the same bytes are twins: both messages are stored and fanned out alike, and the
request is answered with status 200 and the id of its message; or both are rejected, with the status of the
code that the frame is rejected with.  The ids that the two are given need not be the same, as long as both
are new to the store or both are not.  And a whole request that is found to be the user's is answered as
its handler answers it. -/
theorem send_twins (settings : Settings) (acks : Bool) {s : Session} (hRunning : s.running)
    {req : Request} (hMethod : req.method = "POST") (hPath : req.path = "/send") (hJson : req.HasJson)
    (r : Relay) {arrival : Arrival} {fresh' : Fresh}
    (hIds : r.store.database.Holds arrival.id ↔ r.store.database.Holds fresh'.id) :
    let answered := (handle settings .send s.id.user req arrival.toFresh).run r
    let live := ((s.step acks (.arrival (.frame req.body fresh'))).run r).2
    Twins r s.id acks arrival.toFresh fresh' answered live ∧
      ((Activity.run (authenticate settings.secret (arrival.wall.toInt / 1000).toNat req).run r).1 =
          .ok s.id.user →
        let whole := (respond settings req arrival).run r
        whole.1.status = answered.1.status ∧ whole.1.body = answered.1.body ∧ whole.2 = answered.2) := by
  intro answered live
  refine ⟨?_, fun hUser => respond_run_send settings hMethod hPath arrival hUser⟩
  have hAnswered : answered = (postSend s.id.user req arrival.toFresh).run r := rfl
  have hLive : live = ((handleFrame acks s.id req.body fresh').run r).2 :=
    Session.step_run_frame hRunning acks req.body fresh' r
  unfold postSend at hAnswered
  rw [hJson.body?_eq] at hAnswered
  cases hRaw : (Wire.decode? req.body : Option SendRequest) with
  | none =>
    rw [hRaw] at hAnswered
    rw [hAnswered, hLive, handleFrame_run_malformed hRaw]
    refine .rejected .malformed none rfl ?_ rfl rfl
    cases acks <;> rfl
  | some send =>
    rw [hRaw] at hAnswered
    rw [hAnswered, hLive, handleFrame_run hRaw]
    dsimp only
    rw [answer_run]
    have hAlike := post_alike s.id.user send hIds
    generalize runOn (post s.id.user send arrival.toFresh) r = posted at hAlike ⊢
    generalize runOn (post s.id.user send fresh') r = posted' at hAlike ⊢
    cases hAlike with
    | failed e hStore hRegistry hRegistry' =>
      refine .rejected e.code (some send.destination) (Error.status_relay e) ?_ hRegistry ?_
      · cases acks <;> exact hStore
      · cases acks <;> simp [Relay.tell, hRegistry']
    | stored hRegistry hRows hId hTime hSame => exact .accepted hRegistry hRows hId hTime hSame

/-- A message that is accepted, sent by a request and by a frame that are given their own ids and times, with
a session of the sender and one of another user: either sending puts its message into both queues. -/
theorem send_twins_accepted :
    let ann : ConnectionId := ⟨"ann", .zero⟩
    let bob : ConnectionId := ⟨"bob", .zero⟩
    let other : Uuid := ⟨List.replicate 32 1, rfl⟩
    let registry : Registry := { capacity := 1, clients := [("bob", [⟨.zero, {}⟩]), ("ann", [⟨.zero, {}⟩])] }
    let r : Relay := { store := { database := .fresh }, registry }
    let req : Request :=
      { method := "POST"
        uri := "/send"
        headers := [("Content-Type", "application/json")]
        body := ("\x7b\"channel_id\":\"general\",\"content\":\"aGk=\",\"nonce\":null," ++
          "\"signature\":null,\"type\":1\x7d").toUTF8.toList }
    let answered := (handle ⟨"k", 50, true⟩ .send "ann" req ⟨.zero, 5⟩).run r
    let live := ((Session.step true ⟨ann, {}, true⟩ (.arrival (.frame req.body ⟨other, 7⟩))).run r).2
    let m : Message := ⟨.zero, "general", "ann", 5, .text, "hi".toUTF8.toList, [], []⟩
    let m' : Message := { m with id := other, timestamp := 7 }
    answered.1 = .json 200 (SendReply.mk m.id.toString true) ∧
      (∀ id ∈ [ann, bob], answered.2.registry.outbox? id = some { frames := [m.frame] }) ∧
      (∀ id ∈ [ann, bob], live.registry.outbox? id = some { frames := [m'.frame] }) ∧
      Twins r ann true ⟨.zero, 5⟩ ⟨other, 7⟩ answered live := by
  intro ann bob other registry r req answered live m m'
  have hJson : req.HasJson :=
    ⟨⟨"application/json", by decide +kernel, by decide +kernel, by decide +kernel⟩, by decide +kernel⟩
  have hNew (id : Uuid) : ¬ r.store.database.Holds id := by
    simp [r, Store.Database.Holds, Store.Database.fresh]
  have hTwins := @send_twins ⟨"k", 50, true⟩ true ⟨ann, {}, true⟩ rfl req rfl
    (by decide +kernel) hJson r ⟨⟨.zero, 5⟩, "q"⟩ ⟨other, 7⟩ (iff_of_false (hNew _) (hNew _))
  exact ⟨by decide +kernel, by decide +kernel, by decide +kernel, hTwins.1⟩

end Http

end ChatRelay
