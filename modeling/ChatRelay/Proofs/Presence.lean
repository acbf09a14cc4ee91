import ChatRelay.Proofs.Queues
import Mathlib.Data.Finset.Card

/-! Who is connected.  `present` lists the registered connections, and each operation of the registry is
shown to change that list by what it answers and no more.  A registry is `Tidy` when its table is: each
user once, with a connection; so it stays. -/

namespace ChatRelay

namespace Registry

variable {r : Registry} {id other : ConnectionId} {frame : Frame}

/-! ### Present connections -/

/-- The registered connections, user by user. -/
def present (r : Registry) : List ConnectionId :=
  r.clients.flatMap fun entry => entry.2.map fun c => ⟨entry.1, c.serial⟩

/-- What is counted of the connections of one user is counted in the list of that user. -/
theorem countP_present (h : r.Distinct) (user : String) {p : ConnectionId → Bool}
    (hUser : ∀ id, p id → id.user = user) :
    r.present.countP p = (r.clientsOf user).countP fun c => p ⟨user, c.serial⟩ := by
  obtain ⟨capacity, entries⟩ := r
  unfold Distinct at h
  unfold present clientsOf
  induction entries with
  | nil => rfl
  | cons entry rest ih =>
    obtain ⟨hNew, hRest⟩ := List.nodup_cons.1 h
    rw [List.flatMap_cons, List.countP_append, ih hRest, List.countP_map, lookup_entry]
    by_cases hEntry : user = entry.1
    · have hElsewhere : rest.lookup user = none := by
        by_contra hSome
        refine hNew (?_ : entry.1 ∈ rest.map (·.1))
        rw [← hEntry]
        exact mem_of_isSome_lookup (Option.isSome_iff_ne_none.2 hSome)
      rw [hElsewhere, if_pos hEntry, hEntry]
      simp [Function.comp_def]
    · have hNone : entry.2.countP (p ∘ fun c => ⟨entry.1, c.serial⟩) = 0 := by
        simp only [List.countP_eq_zero, Function.comp_apply]
        exact fun c _ hc => hEntry (hUser _ hc).symm
      rw [hNone, if_neg hEntry, Nat.zero_add]

theorem count_present (h : r.Distinct) (id : ConnectionId) :
    r.present.count id = (r.clientsOf id.user).countP (·.serial = id.serial) := by
  rw [List.count, countP_present h id.user]
  · refine List.countP_congr fun c _ => ?_
    obtain ⟨user, serial⟩ := id
    simp
  · intro other hOther
    rw [beq_iff_eq.1 hOther]

theorem mem_present (h : r.Distinct) : id ∈ r.present ↔ r.isRegistered id := by
  rw [← List.count_pos_iff, count_present h, List.countP_pos_iff, isRegistered, outbox?,
    Option.isSome_map, List.find?_isSome]

theorem count_present_setClients (h : r.Distinct) (user : String) (clients : List Client)
    (id : ConnectionId) :
    (r.setClients user clients).present.count id =
      if id.user = user then clients.countP (·.serial = id.serial) else r.present.count id := by
  rw [count_present (h.setClients user clients), count_present h, clientsOf_setClients]
  split <;> rfl

/-- Where the same connections are listed, the same are present. -/
theorem present_congr {r r' : Registry} (h : r.clients = r'.clients) : r.present = r'.present := by
  rw [present, h, present]

theorem count_present_register (h : r.Distinct) (id other : ConnectionId) :
    (r.register id).2.present.count other =
      r.present.count other + if (r.register id).1 ∧ other = id then 1 else 0 := by
  rw [count_present (h.register id), count_present h, clientsOf_register]
  by_cases hOther : other.user = id.user ∧ (r.register id).1
  · rw [if_pos hOther, List.countP_append, List.countP_singleton, ← hOther.1]
    obtain ⟨user, serial⟩ := id
    obtain ⟨user', serial'⟩ := other
    obtain ⟨rfl, hDone⟩ := hOther
    simp [hDone, eq_comm]
  · rw [if_neg hOther, if_neg, Nat.add_zero]
    rintro ⟨hDone, rfl⟩
    exact hOther ⟨rfl, hDone⟩

theorem count_present_unregister (h : r.Distinct) (id other : ConnectionId) :
    (r.unregister id).2.present.count other = if other = id then 0 else r.present.count other := by
  rw [count_present (h.unregister id), count_present h, clientsOf_unregister]
  split
  · rename_i hUser
    rw [List.countP_filter]
    split
    · rename_i hOther
      simp [hOther]
    · rename_i hOther
      rw [hUser]
      refine List.countP_congr fun c _ => ?_
      have hSerial := serial_ne_of_user_eq hOther hUser
      simp only [decide_eq_true_eq, Bool.and_eq_true, ne_eq, decide_not, Bool.not_eq_true',
        decide_eq_false_iff_not, and_iff_left_iff_imp]
      exact fun hc => hc ▸ hSerial
  · rename_i hUser
    rw [if_neg fun hOther => hUser (congrArg _ hOther)]

/-- Putting other queues in place of a user's leaves the same connections. -/
theorem count_present_map (h : r.Distinct) (user : String) {f : Client → Client}
    (hf : ∀ c, (f c).serial = c.serial) (id : ConnectionId) :
    (r.setClients user ((r.clientsOf user).map f)).present.count id = r.present.count id := by
  rw [count_present_setClients h]
  split
  · rename_i hUser
    rw [List.countP_map, count_present h, hUser]
    simp [Function.comp_def, hf]
  · rfl

theorem count_present_setOutbox (h : r.Distinct) (id : ConnectionId) (o : Outbox)
    (other : ConnectionId) : (r.setOutbox id o).present.count other = r.present.count other :=
  count_present_map h id.user (fun c => by split <;> rfl) other

theorem count_present_offer (h : r.Distinct) (audience : Audience) (frame : Frame)
    (id : ConnectionId) : (r.offer audience frame).2.present.count id = r.present.count id := by
  unfold offer
  generalize audience.listed r = users
  generalize hState : (({}, r) : Offer × Registry) = state
  have hSame : state.2.present.count id = r.present.count id := by rw [← hState]
  have hDistinct : state.2.Distinct := hState ▸ h
  clear hState
  induction users generalizing state with
  | nil => exact hSame
  | cons user rest ih =>
    refine ih _ ?_ (hDistinct.setClients ..)
    exact (count_present_map hDistinct user
      (f := fun c => { c with outbox := c.outbox.offer state.2.capacity frame }) (fun c => rfl) id).trans
      hSame

theorem count_present_sendTo (h : r.Distinct) (id : ConnectionId) (frame : Frame)
    (other : ConnectionId) : (r.sendTo id frame).2.present.count other = r.present.count other := by
  unfold sendTo
  split
  · split
    · exact count_present_setOutbox h ..
    · rfl
  · rfl

theorem count_present_take (h : r.Distinct) (id other : ConnectionId) :
    (r.take id).2.present.count other = r.present.count other := by
  unfold take
  split
  · rw [present_congr (clients_takeRemnant ..)]
  · split
    · rfl
    · exact count_present_setOutbox h ..

theorem count_present_dropReader (h : r.Distinct) (id other : ConnectionId) :
    (r.dropReader id).present.count other = r.present.count other := by
  unfold dropReader
  split
  · exact count_present_setOutbox h ..
  · rfl

/-! ### Tidy registries -/

/-- No user is listed twice or without a connection. -/
structure Tidy (r : Registry) : Prop where
  distinct : r.Distinct
  inhabited : ∀ entry ∈ r.clients, entry.2 ≠ []

namespace Tidy

theorem of_nil (h : r.clients = []) : r.Tidy where
  distinct := by simp [Distinct, h]
  inhabited := by simp [h]

theorem congr {r' : Registry} (h : r.Tidy) (hClients : r'.clients = r.clients) : r'.Tidy :=
  ⟨by rw [Distinct, hClients]; exact h.distinct, by rw [hClients]; exact h.inhabited⟩

theorem setClients (h : r.Tidy) (user : String) (clients : List Client) :
    (r.setClients user clients).Tidy := by
  refine ⟨h.distinct.setClients .., ?_⟩
  unfold Registry.setClients
  split
  · exact fun entry hEntry => h.inhabited entry (List.mem_of_mem_filter hEntry)
  rename_i hSome
  have hClients : clients ≠ [] := by simpa using hSome
  split
  · intro entry hEntry
    obtain ⟨old, hOld, rfl⟩ := List.mem_map.1 hEntry
    split
    · exact hClients
    · exact h.inhabited old hOld
  · intro entry hEntry
    rcases List.mem_append.1 hEntry with hEntry | hEntry
    · exact h.inhabited entry hEntry
    · obtain rfl := List.mem_singleton.1 hEntry
      exact hClients

theorem setOutbox (h : r.Tidy) (id : ConnectionId) (o : Outbox) : (r.setOutbox id o).Tidy :=
  h.setClients ..

theorem register (h : r.Tidy) (id : ConnectionId) : (r.register id).2.Tidy := by
  unfold Registry.register
  split
  · exact h.setClients ..
  · exact h

theorem unregister (h : r.Tidy) (id : ConnectionId) : (r.unregister id).2.Tidy := by
  unfold Registry.unregister
  split
  · exact (h.setClients ..).congr (clients_leave ..)
  · exact h

theorem offer (h : r.Tidy) (audience : Audience) (frame : Frame) :
    (r.offer audience frame).2.Tidy := by
  unfold Registry.offer
  generalize audience.listed r = users
  generalize hState : (({}, r) : Offer × Registry) = state
  have hTidy : state.2.Tidy := hState ▸ h
  clear hState
  induction users generalizing state with
  | nil => exact hTidy
  | cons user rest ih => exact ih _ (hTidy.setClients ..)

theorem sendTo (h : r.Tidy) (id : ConnectionId) (frame : Frame) : (r.sendTo id frame).2.Tidy := by
  unfold Registry.sendTo
  split
  · split
    · exact h.setOutbox ..
    · exact h
  · exact h

theorem take (h : r.Tidy) (id : ConnectionId) : (r.take id).2.Tidy := by
  unfold Registry.take
  split
  · exact h.congr (clients_takeRemnant ..)
  · split
    · exact h
    · exact h.setOutbox ..

theorem dropReader (h : r.Tidy) (id : ConnectionId) : (r.dropReader id).Tidy := by
  unfold Registry.dropReader
  split
  · exact h.setOutbox ..
  · exact h.congr rfl

/-- The users that are listed are those who have a connection. -/
theorem onlineUsers (h : r.Tidy) : r.onlineUsers = (r.present.map (·.user)).toFinset.card := by
  have hSame : (r.present.map (·.user)).toFinset = (r.clients.map (·.1)).toFinset := by
    ext user
    simp only [present, List.mem_toFinset, List.mem_map, List.mem_flatMap]
    constructor
    · rintro ⟨id, ⟨entry, hEntry, c, -, rfl⟩, rfl⟩
      exact ⟨entry, hEntry, rfl⟩
    · rintro ⟨entry, hEntry, rfl⟩
      obtain ⟨c, hc⟩ := List.exists_mem_of_ne_nil _ (h.inhabited entry hEntry)
      exact ⟨⟨entry.1, c.serial⟩, ⟨entry, hEntry, c, hc, rfl⟩, rfl⟩
  rw [hSame, List.toFinset_card_of_nodup h.distinct, List.length_map, Registry.onlineUsers]

theorem connectionsOf (h : r.Tidy) (user : String) :
    r.connectionsOf user = r.present.countP (·.user = user) := by
  rw [countP_present h.distinct user (by simp)]
  simp [Registry.connectionsOf]

end Tidy

end Registry

end ChatRelay
