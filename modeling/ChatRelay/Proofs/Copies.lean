import ChatRelay.Proofs.Order

/-! A message and its copies.  What a post answers, what it puts into the queues of live connections, and
what a history shows later, over any restart from the file, are one message: the text of the frame and the
row of the store both read back as the message that was answered. -/

namespace ChatRelay

open Operation (runOn)
open Relation (ReflTransGen)
open Store (Database MessageRow)
open Store.Database (notLater)

/-! ### Copies in queues -/

namespace Registry

variable {r r' r'' : Registry} {frame : Frame}

/-- Every queue that is there now was there before, and has got copies of a frame at its end. -/
def GetsCopies (frame : Frame) (r r' : Registry) : Prop :=
  ∀ id o', r'.outbox? id = some o' →
    ∃ o n, r.outbox? id = some o ∧ o'.frames = o.frames ++ List.replicate n frame

theorem GetsCopies.refl (r : Registry) : GetsCopies frame r r :=
  fun _ o h => ⟨o, 0, h, (List.append_nil o.frames).symm⟩

theorem GetsCopies.trans (h : GetsCopies frame r r') (h' : GetsCopies frame r' r'') :
    GetsCopies frame r r'' := by
  intro id o'' hAfter
  obtain ⟨o', n', hBetween, hMore'⟩ := h' id o'' hAfter
  obtain ⟨o, n, hBefore, hMore⟩ := h id o' hBetween
  refine ⟨o, n + n', hBefore, ?_⟩
  rw [hMore', hMore, List.append_assoc, List.replicate_append_replicate]

theorem frames_offer (capacity : Nat) (frame : Frame) (o : Outbox) :
    ∃ n, (o.offer capacity frame).frames = o.frames ++ List.replicate n frame := by
  unfold Outbox.offer
  split
  · exact ⟨1, rfl⟩
  · exact ⟨0, (List.append_nil o.frames).symm⟩
  · exact ⟨0, (List.append_nil o.frames).symm⟩

theorem getsCopies_offerUser (state : Offer × Registry) (user : String) :
    GetsCopies frame state.2 (offerUser frame state user).2 := by
  intro id o' h
  rw [outbox?_offerUser] at h
  split at h
  · obtain ⟨o, hBefore, rfl⟩ := Option.map_eq_some_iff.1 h
    obtain ⟨n, hMore⟩ := frames_offer state.2.capacity frame o
    exact ⟨o, n, hBefore, hMore⟩
  · exact GetsCopies.refl state.2 id o' h

theorem getsCopies_offer (r : Registry) (audience : Audience) (frame : Frame) :
    GetsCopies frame r (r.offer audience frame).2 := by
  unfold offer
  generalize audience.listed r = users
  generalize hState : (({}, r) : Offer × Registry) = state
  have hStart : GetsCopies frame r state.2 := hState ▸ .refl r
  clear hState
  induction users generalizing state with
  | nil => exact hStart
  | cons user rest ih => exact ih _ (hStart.trans (getsCopies_offerUser state user))

theorem getsCopies_shed (r : Registry) (slow : List ConnectionId) : GetsCopies frame r (r.shed slow) := by
  intro id o h
  rw [outbox?_shed] at h
  split at h
  · contradiction
  · exact GetsCopies.refl r id o h

theorem getsCopies_deliver (r : Registry) (audience : Audience) (frame : Frame) :
    GetsCopies frame r (r.deliver audience frame) :=
  (getsCopies_offer r audience frame).trans (getsCopies_shed _ _)

end Registry

theorem Relay.getsCopies_spread (r : Relay) (m : Message) :
    Registry.GetsCopies m.frame r.registry (r.spread m).registry := by
  unfold Relay.spread
  split
  · exact Registry.getsCopies_deliver _ _ _
  · exact .refl _

/-! ### What a window covers -/

namespace Store.Database

variable {db : Database} {channel : String} {before : Option Int64} {size : Nat} {row : MessageRow}

/-- How many rows of a channel, older than `before` if it is given, come after a row at its place. -/
def countAfter (db : Database) (channel : String) (before : Option Int64) (row : MessageRow × Nat) : Nat :=
  (db.numbered channel before).countP fun other => !notLater other row

/-- A window covers a row: the row is older than the cursor, if there is one, and fewer rows than the window
has room for come after it. -/
def Covers (db : Database) (channel : String) (size : Nat) (before : Option Int64) (row : MessageRow) :
    Prop :=
  (∀ b ∈ before, row.timestamp < b) ∧
    ∀ place, db.messages[place]? = some row → db.countAfter channel before (row, place) < size

/-- What comes after a row in the record is what comes after it by time and insertion. -/
theorem length_back {front back : List (MessageRow × Nat)} {x : MessageRow × Nat}
    (h : db.numberedRecord channel before = front ++ x :: back) :
    back.length ≤ db.countAfter channel before x := by
  have hPerm : (db.numbered channel before).Perm (front ++ x :: back) :=
    h ▸ (List.mergeSort_perm _ _).symm
  have hUp := db.pairwise_numberedRecord channel before
  have hOnce := db.nodup_numberedRecord channel before
  rw [h] at hUp hOnce
  have hBack : ∀ y ∈ back, (!notLater y x) = true := by
    intro y hy
    have hIn : ∀ z ∈ front ++ x :: back, z ∈ db.messages.zipIdx := fun z hz =>
      mem_zipIdx_of_mem_numberedRecord (h ▸ hz)
    have hLater := (List.pairwise_cons.1 (List.pairwise_append.1 hUp).2.1).1 y hy
    have hNe := (List.nodup_cons.1 (List.nodup_append.1 hOnce).2.1).1
    rw [Bool.not_eq_true', Bool.eq_false_iff]
    intro hSame
    exact hNe (eq_of_notLater (hIn y (by simp [hy])) (hIn x (by simp)) hSame hLater ▸ hy)
  rw [countAfter, hPerm.countP_eq, List.countP_append, List.countP_cons, List.countP_eq_length.2 hBack]
  omega

/-- A row that a window covers is in it. -/
theorem Covers.mem_rtake (h : db.Covers row.channel size before row) (hRow : row ∈ db.messages) :
    row ∈ (db.record row.channel before).rtake size := by
  obtain ⟨hOlder, hFew⟩ := h
  obtain ⟨place, hPlace⟩ := List.mem_iff_getElem?.1 hRow
  have hMem : (row, place) ∈ db.numberedRecord row.channel before :=
    (List.mergeSort_perm _ _).mem_iff.2 (mem_numbered.2 ⟨hPlace, rfl, hOlder⟩)
  obtain ⟨front, back, hSplit⟩ := List.append_of_mem hMem
  have hBack := Nat.lt_of_le_of_lt (length_back hSplit) (hFew place hPlace)
  rw [← map_fst_numberedRecord, ← rtake_map, hSplit]
  exact List.mem_map_of_mem (mem_rtake_of_length_lt hBack (row, place))

end Store.Database

/-! ### One message -/

variable {r r' : Relay} {sender : String} {req : SendRequest} {fresh : Fresh} {m : Message}

/-- A message that is posted is one and the same wherever it goes.  It has what the request brings, the
sender, and the channel that the destination names.  What the post adds to the queues of connections are
frames that read as just this message, both as a message and as a frame.  And whatever happens later, also
over a restart from the file, a history of its channel whose window covers it shows it. -/
theorem message_is_one (h : runOn (post sender req fresh) r = (.ok m, r')) :
    (m.kind = req.kind ∧ m.content = req.content ∧ m.nonce = req.nonce ∧ m.signature = req.signature ∧
        m.sender = sender ∧ (runOn (resolve sender req.destination) r).1 = .ok m.channel) ∧
      (∀ id o', r'.registry.outbox? id = some o' →
        ∃ o new, r.registry.outbox? id = some o ∧ o'.frames = o.frames ++ new ∧
          ∀ text ∈ new, Wire.decode? (Text.Utf8.bytes text) = some m ∧
            Wire.decode? (Text.Utf8.bytes text) = some (ServerFrame.message m)) ∧
      ∀ {r₁ r₂ : Relay}, ReflTransGen Site.Step (.serving r') (.serving r₁) →
        ∀ {ceiling : Nat} {user token : String} {limit : Option Nat} {before : Option Int64}
          {messages : List Message},
          runOn (history ceiling user token limit before) r₁ = (.ok messages, r₂) →
          (runOn (resolve user token) r₁).1 = .ok m.channel →
          r₂.store.database.Covers m.channel (pageSize ceiling limit) before (.ofMessage m) →
          m ∈ messages := by
  obtain ⟨hResolve, hMessage, -, r₀, hRegistry, -, hRows, rfl⟩ := post_runOn_stores h
  refine ⟨?_, ?_, ?_⟩
  · refine ⟨?_, ?_, ?_, ?_, ?_, hResolve⟩ <;> · rw [hMessage]; rfl
  · intro id o' hAfter
    obtain ⟨o, n, hBefore, hFrames⟩ := r₀.getsCopies_spread m id o' hAfter
    refine ⟨o, List.replicate n m.frame, hRegistry ▸ hBefore, hFrames, fun text hText => ?_⟩
    rw [(List.mem_replicate.1 hText).2]
    exact ⟨Wire.decode?_encode m, Wire.decode?_encode (ServerFrame.message m)⟩
  · intro r₁ r₂ hLater ceiling user token limit before messages hHistory hNamed hCovers
    have hSame := messages_of_history hHistory
    obtain ⟨channel, hFound, -, rfl⟩ := history_runOn_eq_ok.1 hHistory
    obtain rfl : channel = m.channel := by
      rw [hFound] at hNamed
      exact Except.ok.inj hNamed
    have hStored : MessageRow.ofMessage m ∈ r₂.store.database.messages := by
      rw [hSame]
      refine (Site.followed_of_steps hLater).subset ?_
      show _ ∈ (r₀.spread m).store.database.messages
      rw [Relay.store_spread, hRows]
      exact List.mem_append_right _ (List.mem_singleton_self _)
    exact List.mem_filterMap.2
      ⟨_, Database.Covers.mem_rtake hCovers hStored, MessageRow.message?_ofMessage m⟩

/-- A message of bytes that are no text, in a queue, and in a history after a start from the same file. -/
theorem message_is_one_reopened :
    let req : SendRequest := ⟨"general", [0, 255], [], [7], .voice⟩
    let r : Relay := (Relay.ofDatabase .fresh 1).after [.register ⟨"bob", .zero⟩]
    let m : Message := ⟨.zero, "general", "ann", 5, .voice, [0, 255], [], [7]⟩
    ∃ r' o, runOn (post "ann" req ⟨.zero, 5⟩) r = (.ok m, r') ∧
      r'.registry.outbox? ⟨"bob", .zero⟩ = some o ∧ o.frames ≠ [] ∧
      (∀ text ∈ o.frames, Wire.decode? (Text.Utf8.bytes text) = some m) ∧
      ∃ messages, (runOn (history 100 "bob" "general" none none)
        (.ofDatabase r'.store.database 256)).1 = .ok messages ∧ m ∈ messages := by
  intro req r m
  have hAnswer : (runOn (post "ann" req ⟨.zero, 5⟩) r).1 = .ok m := by decide +kernel
  let r' : Relay := (runOn (post "ann" req ⟨.zero, 5⟩) r).2
  have hRun : runOn (post "ann" req ⟨.zero, 5⟩) r = (.ok m, r') := Prod.ext hAnswer rfl
  let later : Relay := .ofDatabase r'.store.database 256
  have hSteps : ReflTransGen Site.Step (.serving r') (.serving later) :=
    .head (.closes _) (.single (.opens {} rfl))
  have hChannel : later.store.database.channel? "general" =
      some ⟨"general", "General", some "public", true⟩ := by
    decide +kernel
  have hResolve := resolve_runOn (r := later) rfl (by decide) hChannel "bob"
  have hHistory := history_runOn_of_resolve hResolve (by decide +kernel) 100 none none
  have hCovers : later.store.database.Covers "general" 100 none (.ofMessage m) := by
    have hShort : (later.store.database.numbered "general" none).length < 100 := by decide +kernel
    exact ⟨by simp, fun place _ => Nat.lt_of_le_of_lt List.countP_le_length hShort⟩
  have hQueue : (r'.registry.outbox? ⟨"bob", .zero⟩).map (·.frames.length) = some 1 := by decide +kernel
  obtain ⟨o, hOutbox, hLength⟩ := Option.map_eq_some_iff.1 hQueue
  obtain ⟨-, hCopies, hShown⟩ := message_is_one hRun
  obtain ⟨o₀, new, hBefore, hFrames, hNew⟩ := hCopies _ o hOutbox
  obtain rfl : {} = o₀ := Option.some.inj hBefore
  refine ⟨r', o, hRun, hOutbox, ?_, fun text hText => (hNew text ?_).1, _, congrArg Prod.fst hHistory, ?_⟩
  · exact List.ne_nil_of_length_eq_add_one hLength
  · rwa [hFrames] at hText
  · exact hShown hSteps hHistory (congrArg Prod.fst hResolve) hCovers

end ChatRelay
