import ChatRelay.Proofs.Interleaving
import ChatRelay.Proofs.Presence

/-! A registry kept against what was done to it.  Every action changes how often a connection is
registered as its answer says.  So as long as no id is given twice, the connections that are registered are
those that joined and have not left, and each is seen to leave once. -/

namespace ChatRelay

/-! ### Comings and goings -/

/-- The connection that an action has registered. -/
def Performed.joined? : Performed → Option ConnectionId
  | ⟨.register id, true⟩ => some id
  | _ => none

/-- The connection whose registration an action has ended. -/
def Performed.left? : Performed → Option ConnectionId
  | ⟨.unregister id, true⟩ => some id
  | _ => none

/-- The connections that have joined, in order. -/
def joined (past : List Performed) : List ConnectionId :=
  past.filterMap Performed.joined?

/-- The connections that were seen to leave, in order. -/
def left (past : List Performed) : List ConnectionId :=
  past.filterMap Performed.left?

theorem joined_append (past more : List Performed) : joined (past ++ more) = joined past ++ joined more :=
  List.filterMap_append ..

theorem left_append (past more : List Performed) : left (past ++ more) = left past ++ left more :=
  List.filterMap_append ..

@[simp] theorem Performed.joined?_register (id : ConnectionId) (registered : Bool) :
    Performed.joined? ⟨.register id, registered⟩ = if registered then some id else none := by
  cases registered <;> rfl

@[simp] theorem Performed.left?_unregister (id : ConnectionId) (removed : Bool) :
    Performed.left? ⟨.unregister id, removed⟩ = if removed then some id else none := by
  cases removed <;> rfl

theorem count_joined_singleton (e : Performed) (id : ConnectionId) :
    (joined [e]).count id = if e.joined? = some id then 1 else 0 := by
  unfold joined
  rcases h : e.joined? with _ | other <;> simp [h, List.count_singleton]

theorem count_left_singleton (e : Performed) (id : ConnectionId) :
    (left [e]).count id = if e.left? = some id then 1 else 0 := by
  unfold left
  rcases h : e.left? with _ | other <;> simp [h, List.count_singleton]

namespace Action

variable {r : Relay} {id : ConnectionId}

theorem capacity_perform (action : Action) (r : Relay) :
    (action.perform r).2.registry.capacity = r.registry.capacity := by
  cases action with
  | call c => rfl
  | stamp wall => rfl
  | offer audience frame => exact Registry.capacity_offer ..
  | sendTo other frame => exact Registry.capacity_sendTo ..
  | register other => exact Registry.capacity_register ..
  | unregister other => exact Registry.capacity_unregister ..
  | take other => exact Registry.capacity_take ..

theorem tidy_perform (h : r.registry.Tidy) (action : Action) : (action.perform r).2.registry.Tidy := by
  cases action with
  | call c => exact h
  | stamp wall => exact h
  | offer audience frame => exact h.offer audience frame
  | sendTo other frame => exact h.sendTo other frame
  | register other => exact h.register other
  | unregister other => exact h.unregister other
  | take other => exact h.take other

theorem performed_register (other : ConnectionId) (r : Relay) :
    (register other).performed r = ⟨.register other, (r.registry.register other).1⟩ :=
  rfl

theorem performed_unregister (other : ConnectionId) (r : Relay) :
    (unregister other).performed r = ⟨.unregister other, (r.registry.unregister other).1⟩ :=
  rfl

theorem left?_performed (action : Action) :
    (action.performed r).left? = some id ↔ action = .unregister id ∧ r.registry.isRegistered id := by
  cases action with
  | unregister other =>
    rw [performed_unregister, Registry.unregister_fst, Performed.left?_unregister]
    grind
  | _ => simp [performed, Performed.left?]

/-- An action changes how often a connection is registered as its answer says, and no more. -/
theorem count_present_perform (h : r.registry.Distinct) (action : Action) (id : ConnectionId) :
    (action.perform r).2.registry.present.count id =
      if (action.performed r).left? = some id then 0
      else r.registry.present.count id + (joined [action.performed r]).count id := by
  cases action with
  | call c => rfl
  | stamp wall => rfl
  | offer audience frame => exact Registry.count_present_offer h ..
  | sendTo other frame => exact Registry.count_present_sendTo h ..
  | take other => exact Registry.count_present_take h ..
  | register other =>
    have hStays : ((register other).performed r).left? ≠ some id := by
      rw [ne_eq, left?_performed]
      simp
    rw [if_neg hStays, count_joined_singleton, performed_register, Performed.joined?_register]
    refine (Registry.count_present_register h other id).trans ?_
    cases (r.registry.register other).1 <;> simp [eq_comm]
  | unregister other =>
    refine (Registry.count_present_unregister h other id).trans ?_
    by_cases hSame : id = other
    · subst hSame
      rw [if_pos rfl]
      split
      · rfl
      · rename_i hGone
        have hAbsent : r.registry.present.count id = 0 := by
          rw [List.count_eq_zero, Registry.mem_present h]
          exact fun hRegistered => hGone ((left?_performed _).2 ⟨rfl, hRegistered⟩)
        rw [hAbsent, count_joined_singleton, if_neg (by simp [performed, Performed.joined?])]
    · rw [if_neg hSame, if_neg (by rw [left?_performed]; grind), count_joined_singleton,
        if_neg (by simp [performed, Performed.joined?]), Nat.add_zero]

end Action

/-! ### The ledger -/

/-- A registry kept against what was performed so far.  Of an id that was registered at most once, the
registration is there or was seen to end. -/
structure Ledger (r : Registry) (past : List Performed) : Prop where
  tidy : r.Tidy
  balance : ∀ id, (joined past).count id ≤ 1 →
    r.present.count id + (left past).count id = (joined past).count id

namespace Ledger

variable {r : Registry} {past : List Performed} {id : ConnectionId}

theorem of_nobody (h : r.clients = []) : Ledger r [] where
  tidy := .of_nil h
  balance := by simp [Registry.present, h, left, joined]

theorem count_joined_le {past more : List Performed} (h : (joined (past ++ more)).count id ≤ 1) :
    (joined past).count id ≤ 1 := by
  rw [joined_append, List.count_append] at h
  omega

/-- A connection that has left is not registered. -/
theorem outbox?_eq_none (h : Ledger r past) (hOnce : (joined past).count id ≤ 1) (hLeft : id ∈ left past) :
    r.outbox? id = none := by
  have hBalance := h.balance id hOnce
  have hPos := List.count_pos_iff.2 hLeft
  by_contra hSome
  have hThere : r.isRegistered id := Option.isSome_iff_ne_none.2 hSome
  have hPresent := List.count_pos_iff.2 ((Registry.mem_present h.tidy.distinct).2 hThere)
  omega

/-- A connection that has joined and is not registered has left. -/
theorem mem_left (h : Ledger r past) (hOnce : (joined past).count id ≤ 1) (hJoined : id ∈ joined past)
    (hGone : r.isRegistered id = false) : id ∈ left past := by
  have hBalance := h.balance id hOnce
  have hAbsent : r.present.count id = 0 := by
    rw [List.count_eq_zero, Registry.mem_present h.tidy.distinct, hGone]
    exact Bool.false_ne_true
  have hPos := List.count_pos_iff.2 hJoined
  exact List.count_pos_iff.1 (by omega)

theorem count_left_le (h : Ledger r past) (hOnce : (joined past).count id ≤ 1) :
    (left past).count id ≤ 1 := by
  have hBalance := h.balance id hOnce
  omega

theorem perform {r : Relay} (h : Ledger r.registry past) (action : Action) :
    Ledger (action.perform r).2.registry (past ++ [action.performed r]) := by
  refine ⟨action.tidy_perform h.tidy, fun id hOnce => ?_⟩
  have hOld := h.balance id (count_joined_le hOnce)
  rw [joined_append, List.count_append] at hOnce
  rw [action.count_present_perform h.tidy.distinct, joined_append, left_append, List.count_append,
    List.count_append, count_left_singleton]
  split
  · rename_i hLeft
    obtain ⟨rfl, hRegistered⟩ := (Action.left?_performed action).1 hLeft
    have hPresent := List.count_pos_iff.2 ((Registry.mem_present h.tidy.distinct).2 hRegistered)
    have hNew : (joined [(Action.unregister id).performed r]).count id = 0 := rfl
    omega
  · omega

theorem dropReader (h : Ledger r past) (id : ConnectionId) : Ledger (r.dropReader id) past where
  tidy := h.tidy.dropReader id
  balance other hOnce := by
    rw [Registry.count_present_dropReader h.tidy.distinct]
    exact h.balance other hOnce

/-- A call that fails is an entry that changes nothing. -/
theorem fail (h : Ledger r past) (c : Store.Call) (cause : Store.Error) :
    Ledger r (past ++ [⟨.call c, .error cause⟩]) := by
  have hJoined : joined (past ++ [⟨.call c, .error cause⟩]) = joined past := by
    rw [joined_append]
    exact List.append_nil _
  have hLeft : left (past ++ [⟨.call c, .error cause⟩]) = left past := by
    rw [left_append]
    exact List.append_nil _
  exact ⟨h.tidy, by rw [hJoined, hLeft]; exact h.balance⟩

/-- If no id is registered twice, each connection that joined is registered or has left. -/
theorem perm (h : Ledger r past) (hFresh : (joined past).Nodup) :
    (r.present ++ left past).Perm (joined past) := by
  refine List.perm_iff_count.2 fun id => ?_
  rw [List.count_append]
  exact h.balance id (List.nodup_iff_count_le_one.1 hFresh id)

/-- The connections that were removed are those that were seen to leave. -/
theorem countP_removed (h : Ledger r past) (hFresh : (joined past).Nodup) :
    ((joined past).countP fun id => ! r.isRegistered id) = (left past).length := by
  have hThere : (r.present.countP fun id => ! r.isRegistered id) = 0 := by
    rw [List.countP_eq_zero]
    intro id hid
    simp [(Registry.mem_present h.tidy.distinct).1 hid]
  have hGone : ((left past).countP fun id => ! r.isRegistered id) = (left past).length := by
    rw [List.countP_eq_length]
    intro id hid
    have hNone := h.outbox?_eq_none (List.nodup_iff_count_le_one.1 hFresh id) hid
    rw [Registry.isRegistered, hNone]
    rfl
  rw [← (h.perm hFresh).countP_eq, List.countP_append, hThere, hGone, Nat.zero_add]

end Ledger

theorem length_left (past : List Performed) : (left past).length = past.countP (·.left?.isSome) :=
  List.length_filterMap_eq_countP ..

end ChatRelay
