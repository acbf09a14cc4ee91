import ChatRelay.Proofs.Footprint

/-! Who may see a channel, as a question about the content of the store.  `kind?`, `access` and
`audience?` say in one place what the operations find out by several calls, and each operation is shown to
answer just that when no call fails. -/

namespace ChatRelay

open Registry (Audience)

namespace Store.Database

/-- The kind of a channel. -/
def kind? (db : Database) (channel : String) : Option ChannelKind :=
  (db.kindText? channel).map .ofText

/-- The user may see the channel: it is there, and it is shared or has the user as a member. -/
def sees (db : Database) (user channel : String) : Bool :=
  (db.kind? channel).any fun kind => kind.isShared || db.isMember channel user

/-- The kind of a channel for a user who may see it, or why not. -/
def access (db : Database) (user channel : String) : Except RelayError ChannelKind :=
  match db.kind? channel with
  | some kind => if db.sees user channel then .ok kind else .error .forbidden
  | none => .error .channelMissing

/-- Whose connections a message of a channel goes to. -/
def audience? (db : Database) (channel : String) : Option Audience :=
  (db.kind? channel).map fun kind =>
    if kind.isShared then .everyone else .users (db.memberIds channel)

variable {db : Database} {user channel : String}

theorem sees_of_kind {kind : ChannelKind} (h : db.kind? channel = some kind) :
    db.sees user channel = (kind.isShared || db.isMember channel user) := by
  rw [sees, h, Option.any_some]

theorem channel?_isSome_of_sees (h : db.sees user channel) : (db.channel? channel).isSome := by
  unfold sees kind? kindText? at h
  rw [Option.map_map] at h
  cases hChannel : db.channel? channel with
  | none => simp [hChannel] at h
  | some row => rfl

theorem mem_memberIds : user ∈ db.memberIds channel ↔ db.isMember channel user := by
  simp only [memberIds, isMember, List.mem_map, List.mem_filter, List.any_eq_true, decide_eq_true_eq]
  constructor
  · rintro ⟨m, ⟨hMem, hChannel⟩, hUser⟩
    exact ⟨m, hMem, hChannel, hUser⟩
  · rintro ⟨m, hMem, hChannel, hUser⟩
    exact ⟨m, ⟨hMem, hChannel⟩, hUser⟩

theorem Keyed.nodup_memberIds (h : db.Keyed) (channel : String) : (db.memberIds channel).Nodup := by
  have hRows := h.memberships.of_map
  refine (hRows.filter _).map_on fun m hm n hn hUser => ?_
  have hm := List.mem_filter.1 hm
  have hn := List.mem_filter.1 hn
  refine List.inj_on_of_nodup_map h.memberships hm.1 hn.1 (Prod.ext ?_ hUser)
  have hmChannel : m.channel = channel := by simpa using hm.2
  have hnChannel : n.channel = channel := by simpa using hn.2
  exact hmChannel.trans hnChannel.symm

end Store.Database

open Store (Call)
open Operation (call runOn)

variable {r : Relay}

namespace Operation

/-- Looking at a store that can be used finds its content and leaves the relay as it was. -/
theorem runOn_call_of_apply {c : Call} {answer : c.Answer} (hUsable : r.store.poisoned = false)
    (hApply : c.apply r.store.database = .ok (answer, r.store.database)) :
    runOn (call c) r = (.ok answer, r) :=
  runOn_call_eq_ok.2 ⟨hUsable, _, hApply, rfl⟩

theorem runOn_call_of_poisoned (c : Call) (hPoisoned : r.store.poisoned) :
    runOn (call c) r = (.error (.storage .poisoned), r) := by
  rw [runOn_call, Store.call, if_pos hPoisoned]

theorem runOn_insertMessage (hUsable : r.store.poisoned = false) (row : Store.MessageRow) :
    runOn (call (.insertMessage row)) r =
      match r.store.database.insertMessage row with
      | .ok database => (.ok (), { r with store.database := database })
      | .error cause => (.error (.storage cause), r) := by
  rw [runOn_call, Store.call, if_neg (by simp [hUsable])]
  simp only [Store.Call.apply]
  cases r.store.database.insertMessage row <;> rfl

theorem runOn_isMember (hUsable : r.store.poisoned = false) (channel user : String) :
    @runOn Bool (call (.isMember channel user)) r =
      (.ok (r.store.database.isMember channel user), r) :=
  runOn_call_of_apply hUsable rfl

end Operation

open Operation (runOn_bind_of_ok runOn_bind_of_error runOn_bind_eq_ok runOn_call_eq_ok
  runOn_call_of_apply runOn_isMember)

/-! ### Seeing a channel -/

theorem channelKind_runOn (hUsable : r.store.poisoned = false) (channel : String) :
    runOn (channelKind channel) r =
      (match r.store.database.kind? channel with
        | some kind => .ok kind
        | none => .error .channelMissing, r) := by
  unfold channelKind Store.Database.kind?
  rw [runOn_bind_of_ok (runOn_call_of_apply hUsable rfl)]
  cases r.store.database.kindText? channel <;> rfl

theorem authorize_runOn (hUsable : r.store.poisoned = false) (user channel : String) :
    runOn (authorize user channel) r = (r.store.database.access user channel, r) := by
  unfold authorize Store.Database.access
  have hKind := channelKind_runOn hUsable channel
  rcases h : r.store.database.kind? channel with _ | kind
  · rw [h] at hKind
    rw [runOn_bind_of_error hKind]
  · rw [h] at hKind
    rw [runOn_bind_of_ok hKind, Store.Database.sees_of_kind h]
    by_cases hShared : kind.isShared
    · simp [hShared]
    · rw [if_neg hShared, runOn_bind_of_ok (runOn_isMember hUsable channel user)]
      cases r.store.database.isMember channel user <;> simp [hShared]

theorem usable_of_authorize_isOk {user channel : String} (h : (runOn (authorize user channel) r).1.isOk) :
    r.store.poisoned = false := by
  rcases hRun : runOn (authorize user channel) r with ⟨result, r'⟩
  rw [hRun] at h
  cases result with
  | error e => simp [Except.isOk, Except.toBool] at h
  | ok kind =>
    unfold authorize channelKind at hRun
    obtain ⟨_, r₁, hKind, -⟩ := runOn_bind_eq_ok hRun
    obtain ⟨text, r₂, hText, -⟩ := runOn_bind_eq_ok hKind
    exact (runOn_call_eq_ok.1 hText).1

theorem audienceOf_runOn (hUsable : r.store.poisoned = false) (channel : String) :
    runOn (audienceOf channel) r =
      (match r.store.database.audience? channel with
        | some audience => .ok audience
        | none => .error .channelMissing, r) := by
  unfold audienceOf Store.Database.audience?
  have hKind := channelKind_runOn hUsable channel
  rcases h : r.store.database.kind? channel with _ | kind
  · rw [h] at hKind
    rw [runOn_bind_of_error hKind]
    rfl
  · rw [h] at hKind
    rw [runOn_bind_of_ok hKind]
    by_cases hShared : kind.isShared
    · simp [hShared]
    · rw [if_neg hShared, runOn_bind_of_ok (runOn_call_of_apply hUsable rfl)]
      simp [hShared]

end ChatRelay
