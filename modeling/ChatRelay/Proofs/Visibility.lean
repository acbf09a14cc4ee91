import ChatRelay.Proofs.Run
import Mathlib.Data.List.TFAE
import Mathlib.Tactic.TFAE

/-! One answer to who may see a channel.  The listing of channels compares a text, the other operations
read a kind, and an audience is a list of members or everyone; here each is shown to follow
`Database.sees`, for channels of every text of kind or none, so that they all agree. -/

namespace ChatRelay

open Operation (runOn runOn_bind_of_ok runOn_bind_of_error runOn_bind_eq_error runOn_call
  runOn_call_of_apply runOn_attempt)
open Store (ChannelRow)

/-! ### The listing -/

theorem ChannelKind.isShared_ofText (text : String) :
    (ChannelKind.ofText text).isShared = decide (text = "public") := by
  unfold ofText ofWord?
  split
  · rfl
  · rfl
  · rfl
  · rename_i hNot _ _
    rw [decide_eq_false hNot]
    rfl

/-- A channel without a text of kind is not shared. -/
theorem Store.ChannelRow.isShared_iff (c : ChannelRow) :
    (ChannelKind.ofText c.kindText).isShared ↔ c.kind = some "public" := by
  rw [ChannelKind.isShared_ofText, decide_eq_true_iff, kindText]
  cases c.kind <;> simp

namespace Store.Database

variable {db : Database} {channel : String} {row : ChannelRow}

theorem kind?_of_channel? (h : db.channel? channel = some row) :
    db.kind? channel = some (.ofText row.kindText) := by
  rw [kind?, kindText?, h]
  rfl

theorem id_of_channel? (h : db.channel? channel = some row) : row.id = channel := by
  simpa using List.find?_some h

/-- Where a key tells rows apart, one row has a given key, or none has. -/
theorem filter_key_cases {α β : Type} [DecidableEq β] {key : α → β} {rows : List α}
    (h : (rows.map key).Nodup) (k : β) :
    rows.filter (key · = k) = [] ∨ ∃ a, rows.filter (key · = k) = [a] := by
  have hCount : (rows.filter (key · = k)).length ≤ 1 := by
    have hOnce := List.nodup_iff_count_le_one.1 h k
    rwa [List.count_eq_countP, List.countP_map, List.countP_eq_length_filter] at hOnce
  obtain hNone | hOne := Nat.le_one_iff_eq_zero_or_eq_one.1 hCount
  · exact .inl (List.length_eq_zero_iff.1 hNone)
  · exact .inr (List.length_eq_one_iff.1 hOne)

theorem Keyed.filter_id (hKeyed : db.Keyed) (h : db.channel? channel = some row) :
    db.channels.rows.filter (·.id = channel) = [row] := by
  have hMem : row ∈ db.channels.rows.filter (·.id = channel) :=
    List.mem_filter.2 ⟨List.mem_of_find?_eq_some h, by simpa using id_of_channel? h⟩
  obtain hNone | ⟨only, hOnly⟩ := filter_key_cases hKeyed.channelIds channel
  · exact absurd hMem (hNone ▸ List.not_mem_nil)
  · rw [hOnly] at hMem ⊢
    rw [List.mem_singleton.1 hMem]

/-- A member of a channel has one membership of it, and who is no member has none. -/
theorem Keyed.filter_membership (hKeyed : db.Keyed) (channel user : String) :
    (db.isMember channel user = false ∧
        db.members.rows.filter (fun m => m.channel = channel ∧ m.user = user) = []) ∨
      db.isMember channel user = true ∧
        ∃ m, db.members.rows.filter (fun m => m.channel = channel ∧ m.user = user) = [m] := by
  have hMember : db.isMember channel user =
      !(db.members.rows.filter fun m => m.channel = channel ∧ m.user = user).isEmpty := by
    rw [isMember, Bool.eq_iff_iff]
    simp [List.filter_eq_nil_iff]
  have hKey : db.members.rows.filter (fun m => m.channel = channel ∧ m.user = user) =
      db.members.rows.filter fun m => (m.channel, m.user) = (channel, user) := by
    simp only [Prod.mk.injEq]
  rw [hMember, hKey]
  obtain hNone | ⟨only, hOnly⟩ := filter_key_cases hKeyed.memberships (channel, user)
  · exact .inl ⟨by rw [hNone]; rfl, hNone⟩
  · exact .inr ⟨by rw [hOnly]; rfl, only, hOnly⟩

/-- The join has a channel once for each membership of the user.  As there is at most one, the listing is of
the channels that are shared or have the user as a member. -/
theorem Keyed.accessibleChannels_eq (hKeyed : db.Keyed) (user : String) :
    db.accessibleChannels user =
      (db.channels.rows.filter fun c => c.kind = some "public" ∨ db.isMember c.id user).mergeSort
        channelBefore := by
  refine congrArg (List.mergeSort · channelBefore) ?_
  rw [leftJoin, List.filter_flatMap, List.map_flatMap]
  conv_rhs => rw [← List.filterMap_eq_filter, List.filterMap_eq_flatMap_toList]
  congr 1
  funext c
  obtain ⟨hStranger, hNone⟩ | ⟨hMember, m, hOne⟩ := hKeyed.filter_membership c.id user
  · rw [hNone, Option.guard, hStranger]
    by_cases hShared : c.kind = some "public" <;> simp [hShared]
  · rw [hOne, Option.guard, hMember]
    simp

/-- A user's listing has a channel once if they may see it, and else not at all. -/
theorem Keyed.filter_accessibleChannels (hKeyed : db.Keyed) (h : db.channel? channel = some row)
    (user : String) :
    (db.accessibleChannels user).filter (·.id = channel) =
      if db.sees user channel then [row] else [] := by
  have hSees : db.sees user channel = decide (row.kind = some "public" ∨ db.isMember row.id user) := by
    rw [sees_of_kind (kind?_of_channel? h), ← id_of_channel? h, Bool.eq_iff_iff, Bool.or_eq_true,
      row.isShared_iff, decide_eq_true_iff]
  rw [hKeyed.accessibleChannels_eq]
  have hPerm := (List.mergeSort_perm (db.channels.rows.filter fun c =>
    c.kind = some "public" ∨ db.isMember c.id user) channelBefore).filter (·.id = channel)
  rw [List.filter_comm, hKeyed.filter_id h, List.filter_singleton, ← hSees] at hPerm
  cases hValue : db.sees user channel with
  | true =>
    rw [hValue] at hPerm
    exact List.perm_singleton.1 hPerm
  | false =>
    rw [hValue] at hPerm
    exact List.perm_nil.1 hPerm

end Store.Database

/-! ### The operations -/

variable {r : Relay} {channel : String} {row : ChannelRow}

theorem access_eq (h : r.store.database.channel? channel = some row) (user : String) :
    r.store.database.access user channel =
      if r.store.database.sees user channel then .ok (.ofText row.kindText) else .error .forbidden := by
  rw [Store.Database.access, Store.Database.kind?_of_channel? h]

/-- The name of a channel names that channel for everyone. -/
theorem resolve_runOn (hUsable : r.store.poisoned = false) (hName : channel ≠ "")
    (h : r.store.database.channel? channel = some row) (user : String) :
    runOn (resolve user channel) r = (.ok channel, r) := by
  have hClassify : runOn (classify user channel) r = (.ok (.channel channel), r) := by
    unfold classify
    rw [if_neg hName, runOn_bind_of_ok (runOn_call_of_apply hUsable rfl)]
    have hFound : (r.store.database.kindText? channel).isSome := by
      rw [Store.Database.kindText?, h]
      rfl
    exact congrFun (congrArg runOn (if_pos hFound)) r
  unfold resolve
  rw [runOn_bind_of_ok hClassify]
  rfl

theorem listChannels_runOn (hUsable : r.store.poisoned = false) (hKeyed : r.store.database.Keyed)
    (h : r.store.database.channel? channel = some row) (user : String) :
    ∃ channels, (runOn (listChannels user) r).1 = .ok channels ∧
      channels.filter (·.id = channel) =
        if r.store.database.sees user channel then [⟨row.id, row.name, .ofText row.kindText⟩] else [] := by
  refine ⟨_, congrArg Prod.fst (runOn_bind_of_ok (runOn_call_of_apply hUsable rfl)), ?_⟩
  rw [List.filter_map]
  show List.map _ ((r.store.database.accessibleChannels user).filter (·.id = channel)) = _
  rw [hKeyed.filter_accessibleChannels h user]
  split <;> rfl

theorem runOn_after_authorize {α : Type} {user : String} {f : ChannelKind → Operation α}
    (hUsable : r.store.poisoned = false) (h : r.store.database.channel? channel = some row) :
    runOn (authorize user channel >>= f) r =
      if r.store.database.sees user channel then runOn (f (.ofText row.kindText)) r
      else (.error .forbidden, r) := by
  have hAuthorize := authorize_runOn hUsable user channel
  rw [access_eq h user] at hAuthorize
  split
  · rename_i hSees
    rw [if_pos hSees] at hAuthorize
    exact runOn_bind_of_ok hAuthorize
  · rename_i hHidden
    rw [if_neg hHidden] at hAuthorize
    exact runOn_bind_of_error hAuthorize

theorem history_runOn (hUsable : r.store.poisoned = false) (hName : channel ≠ "")
    (h : r.store.database.channel? channel = some row) (ceiling : Nat) (user : String)
    (limit : Option Nat) (before : Option Int64) :
    ∃ messages, (runOn (history ceiling user channel limit before) r).1 =
      if r.store.database.sees user channel then .ok messages else .error .forbidden := by
  unfold history
  rw [runOn_bind_of_ok (resolve_runOn hUsable hName h user), runOn_after_authorize hUsable h]
  split
  · exact ⟨_, congrArg Prod.fst (runOn_bind_of_ok (runOn_call_of_apply hUsable rfl))⟩
  · exact ⟨[], rfl⟩

theorem listMembers_runOn (hUsable : r.store.poisoned = false)
    (h : r.store.database.channel? channel = some row) (user : String) :
    ∃ members, (runOn (listMembers user channel) r).1 =
      if r.store.database.sees user channel then .ok members else .error .forbidden := by
  unfold listMembers
  rw [runOn_after_authorize hUsable h]
  split
  · exact ⟨_, congrArg Prod.fst (runOn_bind_of_ok (runOn_call_of_apply hUsable rfl))⟩
  · exact ⟨[], rfl⟩

theorem append_runOn_error {sender : String} {req : SendRequest} {fresh : Fresh} {e : RelayError}
    {r' : Relay} (h : runOn (append sender channel req fresh) r = (.error e, r')) :
    ∃ cause, e = .storage cause := by
  unfold append at h
  obtain hTime | ⟨time, r₁, -, h⟩ := runOn_bind_eq_error h
  · rw [Operation.runOn_perform] at hTime
    simp at hTime
  obtain hInsert | ⟨_, r₂, -, h⟩ := runOn_bind_eq_error h
  · rw [runOn_call] at hInsert
    split at hInsert
    · simp at hInsert
    · rename_i cause store _
      exact ⟨cause, by simpa using (congrArg Prod.fst hInsert).symm⟩
  · simp at h

theorem post_runOn (hUsable : r.store.poisoned = false) (hName : channel ≠ "")
    (h : r.store.database.channel? channel = some row) (user : String) {req : SendRequest}
    (hDestination : req.destination = channel) (fresh : Fresh) :
    (runOn (post user req fresh) r).1 = .error .forbidden ↔
      r.store.database.sees user channel = false := by
  unfold post
  rw [hDestination, runOn_bind_of_ok (resolve_runOn hUsable hName h user),
    runOn_after_authorize hUsable h]
  split
  · rename_i hSees
    refine iff_of_false (fun hForbidden => ?_) (by simp [hSees])
    obtain hAppend | ⟨m, r₁, -, hRest⟩ := runOn_bind_eq_error (Prod.ext hForbidden rfl)
    · obtain ⟨cause, hCause⟩ := append_runOn_error hAppend
      contradiction
    obtain hBroadcast | ⟨_, r₂, -, hRest⟩ := runOn_bind_eq_error hRest
    · rw [runOn_attempt] at hBroadcast
      simp at hBroadcast
    · simp at hRest
  · rename_i hHidden
    exact iff_of_true rfl (by simpa using hHidden)

theorem audienceOf_runOn_listed (hUsable : r.store.poisoned = false)
    (h : r.store.database.channel? channel = some row) (user : String) :
    ∃ audience, (runOn (audienceOf channel) r).1 = .ok audience ∧
      ∀ (registry : Registry) (id : ConnectionId), registry.isRegistered id → id.user = user →
        (id.user ∈ audience.listed registry ↔ r.store.database.sees user channel) := by
  have hKind := Store.Database.kind?_of_channel? h
  have hAudience := audienceOf_runOn hUsable channel
  have hSome : r.store.database.audience? channel = some _ := congrArg (Option.map _) hKind
  rw [hSome] at hAudience
  refine ⟨_, congrArg Prod.fst hAudience, ?_⟩
  rintro registry id hRegistered rfl
  exact mem_listed_iff_sees (r := { r with registry }) hSome hRegistered

/-! ### Agreement -/

theorem isOk_allowed {α : Type} {allowed : Bool} {a : α} :
    (if allowed then .ok a else .error .forbidden : Except RelayError α).isOk ↔ allowed := by
  cases allowed <;> simp [Except.isOk, Except.toBool]

theorem authorize_iff_sees (hUsable : r.store.poisoned = false)
    (h : r.store.database.channel? channel = some row) (user : String) :
    (runOn (authorize user channel) r).1.isOk ↔ r.store.database.sees user channel := by
  rw [authorize_runOn hUsable, access_eq h]
  exact isOk_allowed

theorem listChannels_iff_sees (hUsable : r.store.poisoned = false) (hKeyed : r.store.database.Keyed)
    (h : r.store.database.channel? channel = some row) (user : String) :
    (∃ channels, (runOn (listChannels user) r).1 = .ok channels ∧ ∃ c ∈ channels, c.id = channel) ↔
      r.store.database.sees user channel := by
  obtain ⟨channels, hChannels, hOnce⟩ := listChannels_runOn hUsable hKeyed h user
  rw [hChannels]
  refine ⟨fun ⟨channels', hSame, c, hc, hId⟩ => ?_, fun hSees => ?_⟩
  · obtain rfl : channels = channels' := by simpa using hSame
    by_contra hHidden
    rw [if_neg hHidden, List.filter_eq_nil_iff] at hOnce
    exact hOnce c hc (by simpa using hId)
  · rw [if_pos hSees] at hOnce
    obtain ⟨hMem, hId⟩ := List.mem_filter.1 (hOnce ▸ List.mem_cons_self)
    exact ⟨channels, rfl, _, hMem, by simpa using hId⟩

theorem history_iff_sees (hUsable : r.store.poisoned = false) (hName : channel ≠ "")
    (h : r.store.database.channel? channel = some row) (ceiling : Nat) (user : String)
    (limit : Option Nat) (before : Option Int64) :
    (runOn (history ceiling user channel limit before) r).1.isOk ↔
      r.store.database.sees user channel := by
  obtain ⟨messages, hHistory⟩ := history_runOn hUsable hName h ceiling user limit before
  rw [hHistory]
  exact isOk_allowed

theorem listMembers_iff_sees (hUsable : r.store.poisoned = false)
    (h : r.store.database.channel? channel = some row) (user : String) :
    (runOn (listMembers user channel) r).1.isOk ↔ r.store.database.sees user channel := by
  obtain ⟨members, hMembers⟩ := listMembers_runOn hUsable h user
  rw [hMembers]
  exact isOk_allowed

theorem audienceOf_iff_sees (hUsable : r.store.poisoned = false)
    (h : r.store.database.channel? channel = some row) (user : String) :
    (∃ audience, (runOn (audienceOf channel) r).1 = .ok audience ∧
      ∀ (registry : Registry) (id : ConnectionId), registry.isRegistered id → id.user = user →
        id.user ∈ audience.listed registry) ↔ r.store.database.sees user channel := by
  obtain ⟨audience, hAudience, hListed⟩ := audienceOf_runOn_listed hUsable h user
  rw [hAudience]
  refine ⟨fun ⟨audience', hSame, hAll⟩ => ?_, fun hSees => ?_⟩
  · obtain rfl : audience = audience' := by simpa using hSame
    -- A registry in which the user has a connection tells the two answers apart.
    have hRegistered : ((Registry.ofCapacity 1).register ⟨user, .zero⟩).2.isRegistered ⟨user, .zero⟩ :=
      Registry.isRegistered_register rfl
    exact (hListed _ _ hRegistered rfl).1 (hAll _ _ hRegistered rfl)
  · exact ⟨audience, rfl, fun registry id hRegistered hUser =>
      (hListed registry id hRegistered hUser).2 hSees⟩

/-- All ways to a channel agree on who may see it.  For a channel that exists, of whatever kind, and
for any user, the check, the listing, the history, the list of members, a post and the audience of a
message give the same answer.  A user who may see the channel is listed it once, with the kind that the
check gives; one who may not is told that it is forbidden, and none of their connections is of the
audience. -/
theorem access_paths_agree (hUsable : r.store.poisoned = false) (hKeyed : r.store.database.Keyed)
    (hName : channel ≠ "") (hExists : (r.store.database.channel? channel).isSome) (user : String)
    (ceiling : Nat) (limit : Option Nat) (before : Option Int64) (req : SendRequest)
    (hDestination : req.destination = channel) (fresh : Fresh) :
    List.TFAE [((authorize user channel).runOn r).1.isOk,
      ∃ channels, ((listChannels user).runOn r).1 = .ok channels ∧ ∃ c ∈ channels, c.id = channel,
      ((history ceiling user channel limit before).runOn r).1.isOk,
      ((listMembers user channel).runOn r).1.isOk,
      ((post user req fresh).runOn r).1 ≠ .error .forbidden,
      ∃ audience, ((audienceOf channel).runOn r).1 = .ok audience ∧
        ∀ (registry : Registry) (id : ConnectionId), registry.isRegistered id → id.user = user →
          id.user ∈ audience.listed registry] ∧
    (∀ kind, ((authorize user channel).runOn r).1 = .ok kind →
      ∃ channels c, ((listChannels user).runOn r).1 = .ok channels ∧
        channels.filter (·.id = channel) = [c] ∧ c.kind = kind) ∧
    (¬ ((authorize user channel).runOn r).1.isOk →
      ((history ceiling user channel limit before).runOn r).1 = .error .forbidden ∧
      ((listMembers user channel).runOn r).1 = .error .forbidden ∧
      ((post user req fresh).runOn r).1 = .error .forbidden ∧
      ∃ audience, ((audienceOf channel).runOn r).1 = .ok audience ∧
        ∀ (registry : Registry) (id : ConnectionId), registry.isRegistered id → id.user = user →
          id.user ∉ audience.listed registry) := by
  obtain ⟨row, h⟩ := Option.isSome_iff_exists.1 hExists
  have hAuthorize := authorize_iff_sees hUsable h user
  have hPost := post_runOn hUsable hName h user hDestination fresh
  refine ⟨?_, fun kind hKind => ?_, fun hNot => ?_⟩
  · tfae_have 1 ↔ 2 := hAuthorize.trans (listChannels_iff_sees hUsable hKeyed h user).symm
    tfae_have 1 ↔ 3 := hAuthorize.trans (history_iff_sees hUsable hName h ceiling user limit before).symm
    tfae_have 1 ↔ 4 := hAuthorize.trans (listMembers_iff_sees hUsable h user).symm
    tfae_have 1 ↔ 5 := by rw [hAuthorize, ne_eq, hPost, Bool.not_eq_false]
    tfae_have 1 ↔ 6 := hAuthorize.trans (audienceOf_iff_sees hUsable h user).symm
    tfae_finish
  · obtain ⟨channels, hChannels, hOnce⟩ := listChannels_runOn hUsable hKeyed h user
    have hSees := hAuthorize.1 (by rw [hKind]; rfl)
    rw [authorize_runOn hUsable, access_eq h, if_pos hSees] at hKind
    rw [if_pos hSees] at hOnce
    exact ⟨channels, _, hChannels, hOnce, by simpa using hKind⟩
  · rw [hAuthorize] at hNot
    obtain ⟨messages, hHistory⟩ := history_runOn hUsable hName h ceiling user limit before
    obtain ⟨members, hMembers⟩ := listMembers_runOn hUsable h user
    obtain ⟨audience, hAudience, hListed⟩ := audienceOf_runOn_listed hUsable h user
    rw [if_neg hNot] at hHistory hMembers
    exact ⟨hHistory, hMembers, hPost.2 (by simpa using hNot), audience, hAudience,
      fun registry id hRegistered hUser hMem => hNot ((hListed registry id hRegistered hUser).1 hMem)⟩

/-- A channel whose text of kind is not that of a shared one, for a user who is no member. -/
theorem access_paths_agree_capitalized :
    ((history 50 "ann" "staff" none none).runOn ((Relay.ofDatabase .fresh 1).after
      [.edit (.createChannel "staff" "Staff" "Public"), .edit (.addMember "staff" "bob")])).1 =
        .error .forbidden :=
  ((access_paths_agree rfl ((Relay.sound_ofDatabase Relay.keyed_fresh 1).after _).keyed (by decide)
    (by decide) "ann" 50 none none ⟨"staff", [], [], [], .text⟩ rfl ⟨.zero, 5⟩).2.2
      (by decide)).1

end ChatRelay
