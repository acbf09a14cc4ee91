import ChatRelay.Proofs.Paging

/-! What a history answers, whatever the rows of the channel are.  The query takes the newest rows, and only
then are those skipped that are no messages: so a history is the end of the channel's messages, but where
such rows stand among the newest it is a shorter end than was asked for. -/

namespace ChatRelay

open Operation (runOn runOn_bind_of_ok runOn_bind_eq_ok runOn_call_of_apply)
open Store (Database MessageRow)

/-- How many rows a history asks for. -/
def pageSize (ceiling : Nat) (limit : Option Nat) : Nat :=
  match limit with
  | some n => min n ceiling
  | none => ceiling

/-! ### The end of a list -/

theorem rtake_append_of_length_le {α : Type} {back : List α} {n : Nat} (h : back.length ≤ n)
    (front : List α) : (front ++ back).rtake n = front.rtake (n - back.length) ++ back := by
  rw [List.rtake, List.rtake, List.length_append, List.drop_append_of_le_length (by omega)]
  congr 2
  omega

theorem mem_rtake_of_length_lt {α : Type} {front back : List α} {n : Nat} (h : back.length < n) (a : α) :
    a ∈ (front ++ a :: back).rtake n := by
  rw [rtake_append_of_length_le (by rw [List.length_cons]; omega)]
  simp

theorem rdrop_append_rtake {α : Type} (l : List α) (n : Nat) : l.rdrop n ++ l.rtake n = l :=
  List.take_append_drop _ l

/-- What is left of the end of a list is the end of what is left, just if all of the end is left or nothing
before it is. -/
theorem filterMap_rtake_eq_iff {α β : Type} (f : α → Option β) (l : List α) (n : Nat) :
    (l.rtake n).filterMap f = (l.filterMap f).rtake n ↔
      (∀ a ∈ l.rtake n, (f a).isSome) ∨ ∀ a ∈ l.rdrop n, f a = none := by
  have hShort : ((l.rtake n).filterMap f).length ≤ (l.rtake n).length := List.length_filterMap_le _ _
  have hSize := Database.length_rtake l n
  have hEnd : (l.filterMap f).rtake n =
      ((l.rdrop n).filterMap f).rtake (n - ((l.rtake n).filterMap f).length) ++
        (l.rtake n).filterMap f := by
    conv_lhs => rw [← rdrop_append_rtake l n, List.filterMap_append]
    exact rtake_append_of_length_le (by omega) _
  rw [hEnd, List.self_eq_append_left, ← List.length_eq_zero_iff, Database.length_rtake,
    ← List.filterMap_length_eq_length, ← List.filterMap_eq_nil_iff, ← List.length_eq_zero_iff]
  -- Rows are left out of the end only if there are more than `n`, and then `n` are in it.
  have hFront : ((l.rdrop n).filterMap f).length ≤ (l.rdrop n).length := List.length_filterMap_le _ _
  have hDrop : (l.rdrop n).length = l.length - n := by
    rw [List.rdrop, List.length_take]
    omega
  omega

/-! ### The answer -/

/-- What a history shows: of the end of the channel's record, the rows that are messages. -/
def Store.Database.shown (db : Database) (channel : String) (size : Nat) (before : Option Int64) :
    List Message :=
  ((db.record channel before).rtake size).filterMap MessageRow.message?

theorem Store.Database.shown_suffix (db : Database) (channel : String) (size : Nat)
    (before : Option Int64) : db.shown channel size before <:+ db.messagesOf channel before :=
  (List.drop_suffix _ _).filterMap _

variable {r r' : Relay} {user token channel : String}

theorem history_runOn_of_resolve (hResolve : runOn (resolve user token) r = (.ok channel, r'))
    (hUser : (runOn (authorize user channel) r').1.isOk) (ceiling : Nat) (limit : Option Nat)
    (before : Option Int64) :
    runOn (history ceiling user token limit before) r =
      (.ok (r'.store.database.shown channel (pageSize ceiling limit) before), r') := by
  have hUsable := usable_of_authorize_isOk hUser
  have hAccess := authorize_runOn hUsable user channel
  obtain ⟨kind, hKind⟩ : ∃ kind, runOn (authorize user channel) r' = (.ok kind, r') := by
    rw [hAccess] at hUser ⊢
    cases hKind : r'.store.database.access user channel with
    | ok kind => exact ⟨kind, rfl⟩
    | error e =>
      rw [hKind] at hUser
      contradiction
  unfold history
  rw [runOn_bind_of_ok hResolve, runOn_bind_of_ok hKind, storedHistory,
    runOn_bind_of_ok (runOn_call_of_apply hUsable rfl), Operation.runOn_pure]
  show (Except.ok ((r'.store.database.window channel _ before).filterMap _), r') = _
  rw [Database.window_eq]
  rfl

/-- A history that is answered is of the channel that the token names, which the user may see. -/
theorem history_runOn_eq_ok {ceiling : Nat} {limit : Option Nat} {before : Option Int64}
    {messages : List Message} :
    runOn (history ceiling user token limit before) r = (.ok messages, r') ↔
      ∃ channel, runOn (resolve user token) r = (.ok channel, r') ∧
        (runOn (authorize user channel) r').1.isOk ∧
        messages = r'.store.database.shown channel (pageSize ceiling limit) before := by
  constructor
  · intro h
    obtain ⟨channel, r₁, hResolve, hRest⟩ := runOn_bind_eq_ok h
    obtain ⟨kind, r₂, hAuthorize, -⟩ := runOn_bind_eq_ok hRest
    have hUser : (runOn (authorize user channel) r₁).1.isOk := by rw [hAuthorize]; rfl
    have hAnswer := history_runOn_of_resolve hResolve hUser ceiling limit before
    obtain ⟨hMessages, rfl⟩ := Prod.mk.inj (h.symm.trans hAnswer)
    exact ⟨channel, hResolve, hUser, Except.ok.inj hMessages⟩
  · rintro ⟨channel, hResolve, hUser, rfl⟩
    exact history_runOn_of_resolve hResolve hUser ceiling limit before

/-- Whatever rows a channel holds, a history of it, asked for by a user who may see it, is answered and
changes nothing more than finding the channel did.  The newest rows are taken, as many as were asked for and
never more than the ceiling, and those that are no messages are skipped: so what is shown is the end of the
channel's messages.  It is as long an end as was asked for just if all the rows taken are messages, or none
of those before them is: a row that is no message takes the place of one. -/
theorem history_skips_within_window (hResolve : runOn (resolve user token) r = (.ok channel, r'))
    (hUser : (runOn (authorize user channel) r').1.isOk) (ceiling : Nat) (limit : Option Nat)
    (before : Option Int64) :
    let rows := r'.store.database.record channel before
    let messages := r'.store.database.messagesOf channel before
    let size := pageSize ceiling limit
    ∃ page, runOn (history ceiling user token limit before) r = (.ok page, r') ∧
      page = (rows.rtake size).filterMap MessageRow.message? ∧ page <:+ messages ∧
      (page = messages.rtake size ↔
        (∀ row ∈ rows.rtake size, row.message?.isSome) ∨ ∀ row ∈ rows.rdrop size, row.message? = none) :=
  ⟨_, history_runOn_of_resolve hResolve hUser ceiling limit before, rfl,
    Database.shown_suffix _ channel _ before, filterMap_rtake_eq_iff _ _ _⟩

/-- A relay whose shared channel holds a message and after it a row that is none. -/
def Relay.ofBlot : Relay :=
  .ofDatabase { Database.fresh with messages :=
    [{ id := Uuid.zero.toString, channel := "general", sender := "bob", timestamp := 10, kind := 1 },
      { id := "not-a-uuid", channel := "general", sender := "bob", timestamp := 20, kind := 1 }] } 1

theorem Relay.record_ofBlot : Relay.ofBlot.store.database.record "general" none =
    Relay.ofBlot.store.database.messages :=
  List.mergeSort_of_pairwise (by decide)

theorem Relay.resolve_ofBlot : runOn (resolve "ann" "general") .ofBlot = (.ok "general", .ofBlot) :=
  rfl

/-- With room for both rows, the row that is no message does no harm. -/
theorem history_skips_within_window_ofBlot :
    ∃ page, runOn (history 100 "ann" "general" (some 2) none) .ofBlot = (.ok page, .ofBlot) ∧
      page = (Relay.ofBlot.store.database.messagesOf "general" none).rtake 2 := by
  obtain ⟨page, hRun, -, -, hExact⟩ :=
    history_skips_within_window Relay.resolve_ofBlot (by decide) 100 (some 2) none
  refine ⟨page, hRun, hExact.2 (.inr ?_)⟩
  rw [Relay.record_ofBlot]
  decide

/-- A history may leave a message out that is among the newest: the newest row takes its place, and is no
message. -/
theorem not_forall_history_newest :
    ¬ ∀ (r : Relay) (user channel : String) (ceiling : Nat) (limit : Option Nat) (before : Option Int64),
      channel ≠ "" → (runOn (authorize user channel) r).1.isOk →
      (runOn (history ceiling user channel limit before) r).1 =
        .ok ((r.store.database.messagesOf channel before).rtake (pageSize ceiling limit)) := by
  intro h
  have hClaim := h .ofBlot "ann" "general" 100 (some 1) none (by decide) (by decide)
  have hRun := history_runOn_of_resolve Relay.resolve_ofBlot (by decide) 100 (some 1) none
  rw [hRun, Database.shown, Database.messagesOf, Relay.record_ofBlot] at hClaim
  have hLengths := congrArg List.length (Except.ok.inj hClaim)
  contradiction

end ChatRelay
