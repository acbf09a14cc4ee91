import ChatRelay.Proofs.Apart
import ChatRelay.Proofs.Posting
import ChatRelay.Proofs.Presence
import ChatRelay.Startup

/-! A fan-out divides its audience.  The registered connections of an audience fall into three groups, by
what becomes of a frame that is offered to each; `deliver_partitions` says that a fan-out treats each
connection as its group says, that it counts the groups, and that it does not matter in which order the
users stand in the table or in the audience. -/

namespace ChatRelay

namespace Registry

variable {r r' : Registry} {id : ConnectionId} {frame : Frame}

/-! ### One connection for each id -/

theorem nodup_serials (h : r.Distinct) (hOnce : r.present.Nodup) (user : String) :
    ((r.clientsOf user).map (·.serial)).Nodup := by
  rw [List.nodup_iff_count_le_one]
  intro serial
  have hCount := List.nodup_iff_count_le_one.1 hOnce ⟨user, serial⟩
  rw [count_present h] at hCount
  rw [List.count, List.countP_map]
  refine le_trans (le_of_eq (List.countP_congr fun c _ => ?_)) hCount
  simp

theorem find?_serial {clients : List Client} (h : (clients.map (·.serial)).Nodup) {c : Client}
    (hc : c ∈ clients) : clients.find? (·.serial = c.serial) = some c := by
  induction clients with
  | nil => simp at hc
  | cons first rest ih =>
    obtain ⟨hNew, hRest⟩ := List.nodup_cons.1 h
    rcases List.mem_cons.1 hc with rfl | hc
    · simp
    · have hSerial : first.serial ≠ c.serial := fun hSame => hNew (List.mem_map.2 ⟨c, hc, hSame.symm⟩)
      rw [List.find?_cons_of_neg (by simpa using hSerial)]
      exact ih hRest hc

theorem outbox?_of_mem_clientsOf (h : r.Distinct) (hOnce : r.present.Nodup) {user : String} {c : Client}
    (hc : c ∈ r.clientsOf user) : r.outbox? ⟨user, c.serial⟩ = some c.outbox := by
  rw [outbox?, find?_serial (nodup_serials h hOnce user) hc]
  rfl

/-! ### The connections that an offer comes to -/

/-- The connections of users whose queues are as `P` says, user by user. -/
def among (P : Outbox → Bool) (r : Registry) (users : List String) : List ConnectionId :=
  users.flatMap fun user => ((r.clientsOf user).filter fun c => P c.outbox).map fun c => ⟨user, c.serial⟩

theorem mem_among (h : r.Distinct) (hOnce : r.present.Nodup) {P : Outbox → Bool} {users : List String} :
    id ∈ r.among P users ↔ id.user ∈ users ∧ ∃ o, r.outbox? id = some o ∧ P o := by
  unfold among
  simp only [List.mem_flatMap, List.mem_map, List.mem_filter]
  constructor
  · rintro ⟨user, hUser, c, ⟨hc, hP⟩, rfl⟩
    exact ⟨hUser, c.outbox, outbox?_of_mem_clientsOf h hOnce hc, hP⟩
  · rintro ⟨hUser, o, ho, hP⟩
    obtain ⟨c, hFind, rfl⟩ := Option.map_eq_some_iff.1 ho
    have hSerial : c.serial = id.serial := by simpa using List.find?_some hFind
    refine ⟨id.user, hUser, c, ⟨List.mem_of_find?_eq_some hFind, hP⟩, ?_⟩
    rw [hSerial]

theorem nodup_among (h : r.Distinct) (hOnce : r.present.Nodup) (P : Outbox → Bool) {users : List String}
    (hUsers : users.Nodup) : (r.among P users).Nodup := by
  refine List.nodup_flatMap.2 ⟨fun user _ => ?_, hUsers.imp fun hNe => ?_⟩
  · refine List.Nodup.of_map (·.serial) ?_
    rw [List.map_map]
    exact (nodup_serials h hOnce user).sublist (List.filter_sublist.map _)
  · intro id hid hid'
    obtain ⟨_, -, rfl⟩ := List.mem_map.1 hid
    obtain ⟨_, -, hSame⟩ := List.mem_map.1 hid'
    exact hNe (congrArg ConnectionId.user hSame).symm

/-- A user's queues are of no account to the connections of the others. -/
theorem among_offerUser (P : Outbox → Bool) (state : Offer × Registry) {user : String}
    {users : List String} (h : user ∉ users) :
    (offerUser frame state user).2.among P users = state.2.among P users := by
  unfold among
  refine List.flatMap_congr fun other hOther => ?_
  have hOthers : other ≠ user := fun hSame => h (hSame ▸ hOther)
  rw [clientsOf_offerUser, if_neg hOthers]

/-- The queue would do this with a frame. -/
def meets (capacity : Nat) (fate : Fate) (o : Outbox) : Bool :=
  o.fate capacity = fate

/-- What a fan-out reports, if no user is listed twice. -/
theorem report_foldl_offerUser {users : List String} (hUsers : users.Nodup) (state : Offer × Registry) :
    (users.foldl (offerUser frame) state).1 =
      { delivered := state.1.delivered + (state.2.among (meets state.2.capacity .queued) users).length
        slow := state.1.slow ++ state.2.among (meets state.2.capacity .refused) users } := by
  induction users generalizing state with
  | nil => simp [among]
  | cons user rest ih =>
    obtain ⟨hFirst, hRest⟩ := List.nodup_cons.1 hUsers
    rw [List.foldl_cons, ih hRest, capacity_offerUser, among_offerUser _ _ hFirst,
      among_offerUser _ _ hFirst]
    simp only [offerUser, among, meets, List.flatMap_cons, List.length_append, List.length_map,
      List.countP_eq_length_filter, List.append_assoc, Nat.add_assoc]

/-! ### The groups of an audience -/

/-- Whether a user is of an audience. -/
def Audience.includes : Audience → String → Bool
  | everyone, _ => true
  | users ids, user => user ∈ ids

/-- No user is listed twice in an audience. -/
def Audience.Once : Audience → Prop
  | everyone => True
  | users ids => ids.Nodup

/-- The registered connections of an audience. -/
def targets (r : Registry) (audience : Audience) : List ConnectionId :=
  r.present.filter fun id => audience.includes id.user

/-- The registered connections of an audience with which an offered frame would meet this fate. -/
def group (r : Registry) (audience : Audience) (fate : Fate) : List ConnectionId :=
  (r.targets audience).filter fun id => (r.outbox? id).any (meets r.capacity fate)

theorem Audience.Once.nodup_listed {audience : Audience} (hAudience : audience.Once) (h : r.Distinct) :
    (audience.listed r).Nodup := by
  cases audience with
  | everyone => exact h
  | users ids => exact hAudience

theorem Audience.mem_listed_iff {audience : Audience} (h : r.isRegistered id) :
    id.user ∈ audience.listed r ↔ audience.includes id.user := by
  cases audience with
  | everyone => exact iff_of_true (mem_users_of_isRegistered h) rfl
  | users ids => simp [listed, includes]

theorem mem_targets (h : r.Distinct) {audience : Audience} :
    id ∈ r.targets audience ↔ r.isRegistered id ∧ audience.includes id.user := by
  rw [targets, List.mem_filter, mem_present h]

theorem mem_group (h : r.Distinct) {audience : Audience} {fate : Fate} :
    id ∈ r.group audience fate ↔
      audience.includes id.user ∧ ∃ o, r.outbox? id = some o ∧ o.fate r.capacity = fate := by
  rw [group, List.mem_filter, mem_targets h, isRegistered]
  cases r.outbox? id <;> simp [meets]

theorem nodup_targets (hOnce : r.present.Nodup) (audience : Audience) : (r.targets audience).Nodup :=
  hOnce.filter _

theorem nodup_group (hOnce : r.present.Nodup) (audience : Audience) (fate : Fate) :
    (r.group audience fate).Nodup :=
  (nodup_targets hOnce audience).filter _

/-- Those whom an offer comes to, who meet one fate, are a group of the audience. -/
theorem among_perm_group (h : r.Distinct) (hOnce : r.present.Nodup) {audience : Audience}
    (hAudience : audience.Once) (fate : Fate) :
    (r.among (meets r.capacity fate) (audience.listed r)).Perm (r.group audience fate) := by
  refine (List.perm_ext_iff_of_nodup (nodup_among h hOnce _ (hAudience.nodup_listed h))
    (nodup_group hOnce audience fate)).2 fun id => ?_
  rw [mem_among h hOnce, mem_group h]
  have hListed : ∀ o, r.outbox? id = some o →
      (id.user ∈ audience.listed r ↔ audience.includes id.user) := by
    intro o ho
    exact Audience.mem_listed_iff (by rw [isRegistered, ho]; rfl)
  constructor
  · rintro ⟨hUser, o, ho, hFate⟩
    exact ⟨(hListed o ho).1 hUser, o, ho, by simpa [meets] using hFate⟩
  · rintro ⟨hUser, o, ho, hFate⟩
    exact ⟨(hListed o ho).2 hUser, o, ho, by simpa [meets] using hFate⟩

/-- Each registered connection of an audience is in exactly one group. -/
theorem length_groups (r : Registry) (h : r.Distinct) (audience : Audience) :
    (r.group audience .queued).length + (r.group audience .refused).length +
      (r.group audience .dropped).length = (r.targets audience).length := by
  unfold group
  simp only [← List.countP_eq_length_filter]
  have hThere : ∀ id ∈ r.targets audience, (r.outbox? id).isSome := fun id hid =>
    ((mem_targets h).1 hid).1
  generalize r.targets audience = ids at hThere
  induction ids with
  | nil => rfl
  | cons id rest ih =>
    obtain ⟨o, ho⟩ := Option.isSome_iff_exists.1 (hThere id List.mem_cons_self)
    have hRest := ih fun id hid => hThere id (List.mem_cons_of_mem _ hid)
    simp only [List.countP_cons, ho, Option.any_some, meets, List.length_cons]
    cases hFate : o.fate r.capacity <;> simp <;> omega

/-! ### The order of the users -/

/-- Two tables of the same connections, with the same queues. -/
structure SameConnections (r r' : Registry) : Prop where
  capacity : r.capacity = r'.capacity
  outbox? : ∀ id, r.outbox? id = r'.outbox? id

/-- The same audience, in any order. -/
inductive Audience.Perm : Audience → Audience → Prop
  | everyone : Perm .everyone .everyone
  | users {ids ids' : List String} (h : ids.Perm ids') : Perm (.users ids) (.users ids')

theorem Audience.Perm.includes {audience audience' : Audience} (h : audience.Perm audience')
    (user : String) : audience.includes user = audience'.includes user := by
  cases h with
  | everyone => rfl
  | users h => simp [Audience.includes, h.mem_iff]

theorem Audience.Perm.once {audience audience' : Audience} (h : audience.Perm audience')
    (hOnce : audience.Once) : audience'.Once := by
  cases h with
  | everyone => trivial
  | users h => exact h.nodup_iff.1 hOnce

/-- It does not matter in which order the table lists the users. -/
theorem SameConnections.of_perm (h : r.Distinct) (h' : r'.Distinct) (hCapacity : r.capacity = r'.capacity)
    (hPerm : r.clients.Perm r'.clients) : SameConnections r r' := by
  refine ⟨hCapacity, fun id => ?_⟩
  unfold Registry.outbox? clientsOf
  have hLookup : r.clients.lookup id.user = r'.clients.lookup id.user := by
    refine Option.ext fun clients => ?_
    rw [lookup_eq_some_iff_mem h, lookup_eq_some_iff_mem h', hPerm.mem_iff]
  rw [hLookup]

theorem distinct_of_perm (h : r.Distinct) (hPerm : r.clients.Perm r'.clients) : r'.Distinct :=
  (hPerm.map _).nodup_iff.1 h

theorem present_perm_of_perm (hPerm : r.clients.Perm r'.clients) : r.present.Perm r'.present :=
  hPerm.flatMap_right _

end Registry

/-! ### The fan-out -/

open Registry (Audience)

variable {r : Relay} {audience audience' : Audience} {id : ConnectionId} {frame : Frame}

/-- To end connections counts those of them that are registered. -/
theorem shedAll_card (slow : List ConnectionId) (r : Relay) :
    ((shedAll slow).run r).1 = (slow.toFinset.filter fun id => r.registry.isRegistered id).card := by
  induction slow generalizing r with
  | nil => rfl
  | cons first rest ih =>
    have hStep : (shedAll (first :: rest)).run r =
        (shedAll rest >>= fun others =>
          pure ((if (r.registry.unregister first).1 then 1 else 0) + others)).run
          { r with registry := (r.registry.unregister first).2 } := rfl
    have hRest : (rest.toFinset.filter fun id => (r.registry.unregister first).2.isRegistered id) =
        (rest.toFinset.filter fun id => r.registry.isRegistered id).erase first := by
      ext id
      by_cases hFirst : id = first
      · simp [hFirst, Registry.isRegistered_unregister]
      · have hSame : (r.registry.unregister first).2.isRegistered id = r.registry.isRegistered id := by
          rw [Registry.isRegistered, Registry.outbox?_unregister_of_ne hFirst, Registry.isRegistered]
        simp [hFirst, hSame]
    rw [hStep, Activity.run_bind, Activity.run_pure, ih, Registry.unregister_fst, List.toFinset_cons,
      Finset.filter_insert]
    dsimp only
    rw [hRest]
    by_cases hThere : r.registry.isRegistered first
    · rw [if_pos hThere, if_pos hThere, ← Finset.erase_insert_eq_erase,
        ← Finset.card_erase_add_one (Finset.mem_insert_self first _), Nat.add_comm]
    · rw [if_neg hThere, if_neg hThere, Nat.zero_add, Finset.erase_eq_of_notMem (by simp [hThere])]

theorem slow_perm_group (h : r.registry.Distinct) (hOnce : r.registry.present.Nodup)
    (hAudience : audience.Once) (frame : Frame) :
    (r.registry.offer audience frame).1.slow.Perm (r.registry.group audience .refused) := by
  rw [Registry.offer, Registry.report_foldl_offerUser (hAudience.nodup_listed h)]
  exact Registry.among_perm_group h hOnce hAudience .refused

/-- What a fan-out answers. -/
theorem deliver_report (h : r.registry.Distinct) (hOnce : r.registry.present.Nodup)
    (hAudience : audience.Once) (frame : Frame) :
    ((deliver audience frame).run r).1 =
      { delivered := (r.registry.group audience .queued).length
        shed := (r.registry.group audience .refused).length } := by
  have hListed := hAudience.nodup_listed h
  have hSlow := slow_perm_group h hOnce hAudience frame
  have hDelivered : (r.registry.offer audience frame).1.delivered =
      (r.registry.group audience .queued).length := by
    rw [Registry.offer, Registry.report_foldl_offerUser hListed,
      ← (Registry.among_perm_group h hOnce hAudience .queued).length_eq]
    exact Nat.zero_add _
  have hShed : ((shedAll (r.registry.offer audience frame).1.slow).run
      { r with registry := (r.registry.offer audience frame).2 }).1 =
        (r.registry.group audience .refused).length := by
    rw [shedAll_card, Finset.filter_true_of_mem fun id hid => ?_,
      List.toFinset_card_of_nodup (hSlow.nodup_iff.2 (Registry.nodup_group hOnce ..)), hSlow.length_eq]
    obtain ⟨-, o, ho, -⟩ := (Registry.mem_group h).1 (hSlow.mem_iff.1 (List.mem_toFinset.1 hid))
    rw [Registry.isRegistered, Registry.offer, Registry.outbox?_foldl_offerUser hListed, ho]
    split <;> rfl
  unfold deliver
  rw [Activity.run_bind, Activity.run_bind, Activity.run_ofAction, Activity.run_pure, ← hDelivered, ← hShed]
  rfl

/-- What a fan-out leaves of each queue. -/
theorem outbox?_deliver_run (h : r.registry.Distinct) (hOnce : r.registry.present.Nodup)
    (hAudience : audience.Once) (frame : Frame) (id : ConnectionId) :
    ((deliver audience frame).run r).2.registry.outbox? id =
      if id ∈ r.registry.group audience .refused then none
      else if id ∈ r.registry.group audience .queued then (r.registry.outbox? id).map (·.push frame)
      else r.registry.outbox? id := by
  rw [deliver_run, Registry.deliver, Registry.outbox?_shed]
  simp only [(slow_perm_group h hOnce hAudience frame).mem_iff]
  split
  · rfl
  rename_i hStays
  rw [Registry.offer, Registry.outbox?_foldl_offerUser (hAudience.nodup_listed h)]
  simp only [Registry.mem_group h] at hStays ⊢
  cases ho : r.registry.outbox? id with
  | none => simp
  | some o =>
    have hListed : id.user ∈ audience.listed r.registry ↔ audience.includes id.user :=
      Audience.mem_listed_iff (by rw [Registry.isRegistered, ho]; rfl)
    simp only [ho, Option.some.injEq, exists_eq_left', Option.map_some, hListed] at hStays ⊢
    cases hFate : o.fate r.registry.capacity <;> simp_all [Outbox.offer]

/-- What a fan-out of `frame` to an audience answers, and what it does to each connection. -/
structure Divides (audience : Audience) (frame : Frame) (before : Relay) (d : Delivery) (after : Relay) :
    Prop where
  /-- A connection that is open and not full gets the frame at the end of its queue. -/
  queued : ∀ id ∈ before.registry.group audience .queued, ∃ o, before.registry.outbox? id = some o ∧
    (o.readerGone = false ∧ o.frames.length < before.registry.capacity) ∧
    after.registry.outbox? id = some { o with frames := o.frames ++ [frame] }
  /-- A connection that is open and full keeps its queue as the frame is offered, and is not registered any
  more then. -/
  refused : ∀ id ∈ before.registry.group audience .refused, ∃ o, before.registry.outbox? id = some o ∧
    (o.readerGone = false ∧ before.registry.capacity ≤ o.frames.length) ∧
    (before.registry.offer audience frame).2.outbox? id = some o ∧ after.registry.outbox? id = none
  /-- A connection whose reading end is gone stays as it is. -/
  dropped : ∀ id ∈ before.registry.group audience .dropped, ∃ o, before.registry.outbox? id = some o ∧
    o.readerGone = true ∧ after.registry.outbox? id = some o
  /-- So does everything that is no connection of the audience. -/
  outside : ∀ id, id ∉ before.registry.targets audience →
    after.registry.outbox? id = before.registry.outbox? id
  delivered : d.delivered = (before.registry.group audience .queued).length
  shed : d.shed = (before.registry.group audience .refused).length
  total : d.delivered + d.shed + (before.registry.group audience .dropped).length =
    (before.registry.targets audience).length
  elsewhere : after = { before with registry := after.registry }

theorem Registry.disjoint_group {r : Registry} (h : r.Distinct) {fate fate' : Fate} (hNe : fate ≠ fate')
    (hid : id ∈ r.group audience fate) : id ∉ r.group audience fate' := by
  rw [mem_group h] at hid ⊢
  obtain ⟨-, o, ho, rfl⟩ := hid
  rintro ⟨-, o', ho', rfl⟩
  rw [ho, Option.some.injEq] at ho'
  exact hNe (by rw [ho'])

theorem divides_deliver (h : r.registry.Distinct) (hOnce : r.registry.present.Nodup)
    (hAudience : audience.Once) (frame : Frame) :
    Divides audience frame r ((deliver audience frame).run r).1 ((deliver audience frame).run r).2 := by
  have hReport := deliver_report h hOnce hAudience frame
  have hQueue := outbox?_deliver_run h hOnce hAudience frame
  refine ⟨fun id hid => ?_, fun id hid => ?_, fun id hid => ?_, fun id hid => ?_, ?_, ?_, ?_, ?_⟩
  · obtain ⟨-, o, ho, hFate⟩ := (Registry.mem_group h).1 hid
    refine ⟨o, ho, Outbox.fate_eq_queued_iff.1 hFate, ?_⟩
    rw [hQueue, if_neg (Registry.disjoint_group h (by decide) hid), if_pos hid, ho]
    rfl
  · obtain ⟨-, o, ho, hFate⟩ := (Registry.mem_group h).1 hid
    refine ⟨o, ho, Outbox.fate_eq_refused_iff.1 hFate, ?_, by rw [hQueue, if_pos hid]⟩
    rw [Registry.offer, Registry.outbox?_foldl_offerUser (hAudience.nodup_listed h), ho]
    simp [Outbox.offer, hFate]
  · obtain ⟨-, o, ho, hFate⟩ := (Registry.mem_group h).1 hid
    refine ⟨o, ho, Outbox.fate_eq_dropped_iff.1 hFate, ?_⟩
    rw [hQueue, if_neg (Registry.disjoint_group h (by decide) hid),
      if_neg (Registry.disjoint_group h (by decide) hid), ho]
  · have hNone : ∀ fate, id ∉ r.registry.group audience fate := fun fate hMem =>
      hid (List.mem_of_mem_filter hMem)
    rw [hQueue, if_neg (hNone _), if_neg (hNone _)]
  · rw [hReport]
  · rw [hReport]
  · rw [hReport]
    exact Registry.length_groups r.registry h audience
  · rw [deliver_run]

/-! ### The order of users -/

/-- The groups of an audience are found in any order of the table and of the audience. -/
theorem Registry.SameConnections.group_perm {r r' : Registry} (hSame : SameConnections r r')
    (h : r.Distinct) (h' : r'.Distinct) (hOnce : r.present.Nodup) (hOnce' : r'.present.Nodup)
    (hPerm : audience.Perm audience') (fate : Fate) :
    (r.group audience fate).Perm (r'.group audience' fate) := by
  refine (List.perm_ext_iff_of_nodup (nodup_group hOnce ..) (nodup_group hOnce' ..)).2 fun id => ?_
  rw [mem_group h, mem_group h', hPerm.includes, hSame.outbox?, hSame.capacity]

/-- A fan-out does the same for tables of the same connections and audiences of the same users. -/
theorem deliver_same {r r' : Relay} (hSame : Registry.SameConnections r.registry r'.registry)
    (h : r.registry.Distinct) (h' : r'.registry.Distinct) (hOnce : r.registry.present.Nodup)
    (hOnce' : r'.registry.present.Nodup) (hPerm : audience.Perm audience') (hAudience : audience.Once)
    (frame : Frame) :
    ((deliver audience frame).run r).1 = ((deliver audience' frame).run r').1 ∧
      ∀ id, ((deliver audience frame).run r).2.registry.outbox? id =
        ((deliver audience' frame).run r').2.registry.outbox? id := by
  have hGroup := hSame.group_perm h h' hOnce hOnce' hPerm
  have hAudience' := hPerm.once hAudience
  constructor
  · rw [deliver_report h hOnce hAudience, deliver_report h' hOnce' hAudience',
      (hGroup .queued).length_eq, (hGroup .refused).length_eq]
  · intro id
    rw [outbox?_deliver_run h hOnce hAudience, outbox?_deliver_run h' hOnce' hAudience']
    simp only [(hGroup _).mem_iff, hSame.outbox?]

/-- A fan-out partitions its audience.  Take any table that lists each user once and gives no id to two
connections, any frame, and any audience that lists no user twice.  Then each connection of the audience is
in one of three groups and is treated accordingly, every other connection is left alone, and the answer is
the sizes of two groups.  Neither the answer nor what is left of any connection depends on the order of the
users in the table or in the audience. -/
theorem deliver_partitions (h : r.registry.Distinct) (hOnce : r.registry.present.Nodup)
    (hAudience : audience.Once) (frame : Frame) :
    Divides audience frame r ((deliver audience frame).run r).1 ((deliver audience frame).run r).2 ∧
    ∀ entries audience', r.registry.clients.Perm entries → audience.Perm audience' →
      let other := { r with registry := { r.registry with clients := entries } }
      ((deliver audience frame).run r).1 = ((deliver audience' frame).run other).1 ∧
        ∀ id, ((deliver audience frame).run r).2.registry.outbox? id =
          ((deliver audience' frame).run other).2.registry.outbox? id := by
  refine ⟨divides_deliver h hOnce hAudience frame, fun entries audience' hEntries hPerm => ?_⟩
  have hTable : r.registry.clients.Perm ({ r.registry with clients := entries } : Registry).clients :=
    hEntries
  have h' := Registry.distinct_of_perm h hTable
  have hSame := Registry.SameConnections.of_perm h h' rfl hTable
  have hOnce' := (Registry.present_perm_of_perm hTable).nodup_iff.1 hOnce
  exact deliver_same hSame h h' hOnce hOnce' hPerm hAudience frame

/-- A member has a connection with room, another a full one and one that nobody reads; a third is not
connected, and a user who is no member has two connections. -/
theorem deliver_partitions_members :
    ∃ r : Relay, ∃ audience : Audience,
      ((deliver audience "new").run r).1 = ⟨1, 1⟩ ∧ (r.registry.targets audience).length = 3 ∧
      Divides audience "new" r ((deliver audience "new").run r).1 ((deliver audience "new").run r).2 ∧
      ∀ entries audience', r.registry.clients.Perm entries → audience.Perm audience' →
        let other := { r with registry := { r.registry with clients := entries } }
        ((deliver audience "new").run r).1 = ((deliver audience' "new").run other).1 ∧
          ∀ id, ((deliver audience "new").run r).2.registry.outbox? id =
            ((deliver audience' "new").run other).2.registry.outbox? id := by
  let one : Uuid := ⟨List.replicate 32 1, by simp⟩
  let registry : Registry := {
    capacity := 1
    clients := [
      ("ann", [{ serial := .zero, outbox := { frames := ["old"] } },
        { serial := one, outbox := { readerGone := true } }]),
      ("bob", [{ serial := .zero }]),
      ("cat", [{ serial := .zero }, { serial := one, outbox := { frames := ["old"] } }])] }
  let r : Relay := { Relay.ofDatabase .fresh 1 with registry }
  refine ⟨r, .users ["bob", "dan", "ann"], by rfl, by rfl, ?_⟩
  have hMembers : (Audience.users ["bob", "dan", "ann"]).Once := by unfold Audience.Once; decide
  exact deliver_partitions (r := r) (by unfold Registry.Distinct; decide) (by decide) hMembers "new"

end ChatRelay
