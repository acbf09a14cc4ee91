import ChatRelay.Proofs.Queues

/-! Registries that are alike apart from some connections.  An operation does the same to both, as far as
the other connections go, and one on an excepted connection does nothing to them; a fan-out finds the same
of the others too slow.  The order in which users are listed does not matter. -/

namespace ChatRelay.Registry

variable {r r' r'' : Registry} {X Y : List ConnectionId} {id : ConnectionId} {frame : Frame}

/-! ### The other connections -/

/-- The connections of a user that are not excepted. -/
def others (X : List ConnectionId) (r : Registry) (user : String) : List Client :=
  (r.clientsOf user).filter fun c => ⟨user, c.serial⟩ ∉ X

theorem others_setClients (user other : String) (clients : List Client) :
    (r.setClients user clients).others X other =
      if other = user then clients.filter fun c => ⟨user, c.serial⟩ ∉ X else r.others X other := by
  unfold others
  rw [clientsOf_setClients]
  split
  · rename_i hUser
    rw [hUser]
  · rfl

theorem others_register (id : ConnectionId) (user : String) :
    (r.register id).2.others X user =
      if user = id.user ∧ (r.register id).1 ∧ id ∉ X then r.others X user ++ [{ serial := id.serial }]
      else r.others X user := by
  unfold others
  rw [clientsOf_register]
  by_cases hDone : user = id.user ∧ (r.register id).1
  · obtain ⟨rfl, hRegistered⟩ := hDone
    rw [if_pos ⟨rfl, hRegistered⟩, List.filter_append]
    by_cases hX : id ∈ X <;> simp [hRegistered, hX]
  · rw [if_neg hDone, if_neg fun h => hDone ⟨h.1, h.2.1⟩]

theorem others_unregister (id : ConnectionId) (user : String) :
    (r.unregister id).2.others X user =
      if user = id.user then (r.others X user).filter (·.serial ≠ id.serial) else r.others X user := by
  unfold others
  rw [clientsOf_unregister]
  split
  · rename_i hUser
    rw [hUser, List.filter_filter, List.filter_filter]
    simp only [Bool.and_comm]
  · rfl

theorem others_setOutbox (id : ConnectionId) (o : Outbox) (user : String) :
    (r.setOutbox id o).others X user =
      if user = id.user then (r.others X user).map fun c =>
        if c.serial = id.serial then { c with outbox := o } else c
      else r.others X user := by
  unfold setOutbox
  rw [others_setClients]
  split
  · rename_i hUser
    rw [hUser, others, List.filter_map]
    congr 1
    refine List.filter_congr fun c _ => ?_
    simp only [Function.comp_apply]
    split <;> rfl
  · rfl

theorem serial_ne_of_mem_others (hX : id ∈ X) {c : Client} (hc : c ∈ r.others X id.user) :
    c.serial ≠ id.serial := by
  intro hSerial
  have hKept := (List.mem_filter.1 hc).2
  rw [hSerial] at hKept
  simp [hX] at hKept

theorem others_setOutbox_of_mem (hX : id ∈ X) (o : Outbox) (user : String) :
    (r.setOutbox id o).others X user = r.others X user := by
  rw [others_setOutbox]
  split
  · rename_i hUser
    rw [hUser]
    exact (List.map_congr_left fun c hc => if_neg (serial_ne_of_mem_others hX hc)).trans (List.map_id' _)
  · rfl

theorem others_unregister_of_mem (hX : id ∈ X) (user : String) :
    (r.unregister id).2.others X user = r.others X user := by
  rw [others_unregister]
  split
  · rename_i hUser
    rw [hUser]
    refine List.filter_eq_self.2 fun c hc => ?_
    simpa using serial_ne_of_mem_others hX hc
  · rfl

/-- The queue of a connection that is not excepted is found among the others. -/
theorem outbox?_eq_others (hX : id ∉ X) (r : Registry) :
    r.outbox? id = ((r.others X id.user).find? (·.serial = id.serial)).map (·.outbox) := by
  unfold outbox? others
  rw [List.find?_filter]
  congr 2
  funext c
  by_cases hSerial : c.serial = id.serial
  · rw [hSerial]
    simp [hX]
  · simp [hSerial]

theorem outbox?_ne_none_of_mem_clientsOf {user : String} {c : Client} (h : c ∈ r.clientsOf user) :
    r.outbox? ⟨user, c.serial⟩ ≠ none := by
  rw [ne_eq, outbox?, Option.map_eq_none_iff, List.find?_eq_none]
  exact fun hNone => hNone c h (by simp)

/-! ### Alike registries -/

/-- Two registries with the same connections, in the same order for each user, apart from `X`.  What is left
of queues that have ended is not compared: it is their readers' alone. -/
structure Alike (X : List ConnectionId) (r r' : Registry) : Prop where
  capacity : r.capacity = r'.capacity
  distinct : r.Distinct
  distinct' : r'.Distinct
  others : ∀ user, r.others X user = r'.others X user

namespace Alike

theorem refl (h : r.Distinct) : Alike X r r :=
  ⟨rfl, h, h, fun _ => rfl⟩

theorem symm (h : Alike X r r') : Alike X r' r :=
  ⟨h.capacity.symm, h.distinct', h.distinct, fun user => (h.others user).symm⟩

theorem trans (h : Alike X r r') (h' : Alike X r' r'') : Alike X r r'' :=
  ⟨h.capacity.trans h'.capacity, h.distinct, h'.distinct',
    fun user => (h.others user).trans (h'.others user)⟩

theorem mono (h : Alike X r r') (hX : X ⊆ Y) : Alike Y r r' := by
  refine ⟨h.capacity, h.distinct, h.distinct', fun user => ?_⟩
  have hMore : ∀ r : Registry,
      r.others Y user = (r.others X user).filter fun c => ⟨user, c.serial⟩ ∉ Y := by
    intro r
    unfold Registry.others
    rw [List.filter_filter]
    refine List.filter_congr fun c _ => ?_
    by_cases hc : (⟨user, c.serial⟩ : ConnectionId) ∈ X
    · simp [hc, hX hc]
    · simp [hc]
  rw [hMore r, hMore r', h.others]

/-- Connections that are gone from both need not be excepted. -/
theorem narrow (h : Alike (id :: X) r r')
    (hGone : ∀ x ∈ X, r.outbox? x = none ∧ r'.outbox? x = none) : Alike [id] r r' := by
  refine ⟨h.capacity, h.distinct, h.distinct', fun user => ?_⟩
  have hSame : ∀ r : Registry, (∀ x ∈ X, r.outbox? x = none) →
      r.others [id] user = r.others (id :: X) user := by
    intro r hGone
    refine List.filter_congr fun c hc => ?_
    have hThere : (⟨user, c.serial⟩ : ConnectionId) ∉ X := fun hx =>
      outbox?_ne_none_of_mem_clientsOf hc (hGone _ hx)
    simp [hThere]
  rw [hSame r fun x hx => (hGone x hx).1, hSame r' fun x hx => (hGone x hx).2, h.others]

theorem outbox? (h : Alike X r r') (hX : id ∉ X) : r.outbox? id = r'.outbox? id := by
  rw [outbox?_eq_others hX, outbox?_eq_others hX, h.others]

theorem setOutbox (h : Alike X r r') (id : ConnectionId) (o : Outbox) :
    Alike X (r.setOutbox id o) (r'.setOutbox id o) := by
  refine ⟨?_, h.distinct.setOutbox id o, h.distinct'.setOutbox id o, fun user => ?_⟩
  · rw [capacity_setOutbox, capacity_setOutbox, h.capacity]
  · rw [others_setOutbox, others_setOutbox, h.others]

theorem setOutbox_left (h : r.Distinct) (hX : id ∈ X) (o : Outbox) : Alike X (r.setOutbox id o) r :=
  ⟨capacity_setOutbox .., h.setOutbox id o, h, others_setOutbox_of_mem hX o⟩

theorem register (h : Alike X r r') (id : ConnectionId) : Alike X (r.register id).2 (r'.register id).2 := by
  have hAnswer : (r.register id).1 = (r'.register id).1 := by
    unfold Registry.register
    rw [h.capacity]
    split <;> rfl
  refine ⟨?_, h.distinct.register id, h.distinct'.register id, fun user => ?_⟩
  · rw [capacity_register, capacity_register, h.capacity]
  · rw [others_register, others_register, h.others, hAnswer]

theorem unregister (h : Alike X r r') (id : ConnectionId) :
    Alike X (r.unregister id).2 (r'.unregister id).2 := by
  refine ⟨?_, h.distinct.unregister id, h.distinct'.unregister id, fun user => ?_⟩
  · rw [capacity_unregister, capacity_unregister, h.capacity]
  · rw [others_unregister, others_unregister, h.others]

theorem unregister_left (h : r.Distinct) (hX : id ∈ X) : Alike X (r.unregister id).2 r :=
  ⟨capacity_unregister .., h.unregister id, h, others_unregister_of_mem hX⟩

theorem sendTo_left (h : r.Distinct) (hX : id ∈ X) (frame : Frame) : Alike X (r.sendTo id frame).2 r := by
  unfold Registry.sendTo
  split
  · split
    · exact setOutbox_left h hX _
    · exact refl h
  · exact refl h

theorem sendTo (h : Alike X r r') (id : ConnectionId) (frame : Frame) :
    Alike X (r.sendTo id frame).2 (r'.sendTo id frame).2 := by
  by_cases hX : id ∈ X
  · exact ((sendTo_left h.distinct hX frame).trans h).trans (sendTo_left h.distinct' hX frame).symm
  unfold Registry.sendTo
  rw [h.outbox? hX, h.capacity]
  split
  · split
    · exact h.setOutbox id _
    · exact h
  · exact h

/-- What is left of queues that have ended makes no difference. -/
theorem of_clients {r' : Registry} (h : r.Distinct) (hClients : r'.clients = r.clients)
    (hCapacity : r'.capacity = r.capacity) : Alike X r' r := by
  refine ⟨hCapacity, by rw [Distinct, hClients]; exact h, h, fun user => ?_⟩
  rw [Registry.others, clientsOf_congr hClients, Registry.others]

theorem takeRemnant_left (h : r.Distinct) (id : ConnectionId) : Alike X (r.takeRemnant id).2 r :=
  of_clients h (clients_takeRemnant ..) (capacity_takeRemnant ..)

theorem forget_left (h : r.Distinct) (id : ConnectionId) : Alike X (r.forget id) r :=
  of_clients h rfl rfl

theorem take_left (h : r.Distinct) (hX : id ∈ X) : Alike X (r.take id).2 r := by
  unfold Registry.take
  split
  · exact takeRemnant_left h id
  · split
    · exact refl h
    · exact setOutbox_left h hX _

theorem take (h : Alike X r r') (id : ConnectionId) : Alike X (r.take id).2 (r'.take id).2 := by
  by_cases hX : id ∈ X
  · exact ((take_left h.distinct hX).trans h).trans (take_left h.distinct' hX).symm
  unfold Registry.take
  rw [h.outbox? hX]
  split
  · exact ((takeRemnant_left h.distinct id).trans h).trans (takeRemnant_left h.distinct' id).symm
  · split
    · exact h
    · exact h.setOutbox id _

theorem dropReader_left (h : r.Distinct) (hX : id ∈ X) : Alike X (r.dropReader id) r := by
  unfold Registry.dropReader
  split
  · exact setOutbox_left h hX _
  · exact forget_left h id

theorem dropReader (h : Alike X r r') (id : ConnectionId) :
    Alike X (r.dropReader id) (r'.dropReader id) := by
  by_cases hX : id ∈ X
  · exact ((dropReader_left h.distinct hX).trans h).trans (dropReader_left h.distinct' hX).symm
  unfold Registry.dropReader
  rw [h.outbox? hX]
  split
  · exact h.setOutbox id _
  · exact ((forget_left h.distinct id).trans h).trans (forget_left h.distinct' id).symm

end Alike

/-! ### Offering frames -/

theorem clientsOf_offerUser (frame : Frame) (state : Offer × Registry) (user other : String) :
    (offerUser frame state user).2.clientsOf other =
      if other = user then (state.2.clientsOf other).map fun c =>
        { c with outbox := c.outbox.offer state.2.capacity frame }
      else state.2.clientsOf other := by
  refine (clientsOf_setClients ..).trans ?_
  split
  · rename_i hUser
    rw [hUser]
  · rfl

/-- The connection would refuse a frame. -/
def Refuses (capacity : Nat) (c : Client) : Prop :=
  c.outbox.fate capacity = .refused

theorem mem_slow_offerUser_iff (frame : Frame) (state : Offer × Registry) (user : String)
    (id : ConnectionId) :
    id ∈ (offerUser frame state user).1.slow ↔ id ∈ state.1.slow ∨
      id.user = user ∧ ∃ c ∈ state.2.clientsOf user, c.serial = id.serial ∧
        Refuses state.2.capacity c := by
  unfold offerUser Refuses
  simp only [List.mem_append, List.mem_map, List.mem_filter, decide_eq_true_eq]
  refine or_congr .rfl ⟨?_, ?_⟩
  · rintro ⟨c, ⟨hc, hRefuses⟩, rfl⟩
    exact ⟨rfl, c, hc, rfl, hRefuses⟩
  · rintro ⟨rfl, c, hc, hSerial, hRefuses⟩
    exact ⟨c, ⟨hc, hRefuses⟩, by rw [hSerial]⟩

/-- The others among those who refuse a frame. -/
theorem exists_refuses_iff_others (hX : id ∉ X) {capacity : Nat} :
    (∃ c ∈ r.clientsOf id.user, c.serial = id.serial ∧ Refuses capacity c) ↔
      ∃ c ∈ r.others X id.user, c.serial = id.serial ∧ Refuses capacity c := by
  constructor
  · rintro ⟨c, hc, hSerial, hRefuses⟩
    exact ⟨c, List.mem_filter.2 ⟨hc, by rw [hSerial]; simpa using hX⟩, hSerial, hRefuses⟩
  · rintro ⟨c, hc, hSerial, hRefuses⟩
    exact ⟨c, List.mem_of_mem_filter hc, hSerial, hRefuses⟩

theorem others_map_offer {clients : List Client} {user : String} (capacity : Nat) (frame : Frame) :
    ((clients.map fun c => { c with outbox := c.outbox.offer capacity frame }).filter
        fun c => (⟨user, c.serial⟩ : ConnectionId) ∉ X) =
      (clients.filter fun c => (⟨user, c.serial⟩ : ConnectionId) ∉ X).map fun c =>
        { c with outbox := c.outbox.offer capacity frame } :=
  List.filter_map ..

/-- Two fan-outs, part of the way: the registries are alike, and the same of the others were too slow. -/
structure AlikeOffers (X : List ConnectionId) (s s' : Offer × Registry) : Prop where
  alike : Alike X s.2 s'.2
  slow : ∀ id ∉ X, id ∈ s.1.slow ↔ id ∈ s'.1.slow

theorem AlikeOffers.offerUser {s s' : Offer × Registry} (h : AlikeOffers X s s') (user : String) :
    AlikeOffers X (offerUser frame s user) (offerUser frame s' user) := by
  refine ⟨⟨?_, h.alike.distinct.setClients .., h.alike.distinct'.setClients .., fun other => ?_⟩,
    fun id hX => ?_⟩
  · rw [capacity_offerUser, capacity_offerUser, h.alike.capacity]
  · unfold others
    rw [clientsOf_offerUser, clientsOf_offerUser, h.alike.capacity]
    split
    · rw [others_map_offer, others_map_offer]
      exact congrArg _ (h.alike.others other)
    · exact h.alike.others other
  · rw [mem_slow_offerUser_iff, mem_slow_offerUser_iff, h.slow id hX]
    refine or_congr .rfl (and_congr_right fun hUser => ?_)
    rw [← hUser, exists_refuses_iff_others hX, exists_refuses_iff_others hX, h.alike.others,
      h.alike.capacity]

theorem AlikeOffers.foldl {s s' : Offer × Registry} (h : AlikeOffers X s s') (users : List String) :
    AlikeOffers X (users.foldl (Registry.offerUser frame) s) (users.foldl (Registry.offerUser frame) s') := by
  induction users generalizing s s' with
  | nil => exact h
  | cons user rest ih => exact ih (h.offerUser user)

theorem clientsOf_foldl_offerUser {users : List String} (hUsers : users.Nodup) (state : Offer × Registry)
    (user : String) :
    (users.foldl (offerUser frame) state).2.clientsOf user =
      if user ∈ users then (state.2.clientsOf user).map fun c =>
        { c with outbox := c.outbox.offer state.2.capacity frame }
      else state.2.clientsOf user := by
  induction users generalizing state with
  | nil => rfl
  | cons first rest ih =>
    obtain ⟨hOnce, hRest⟩ := List.nodup_cons.1 hUsers
    rw [List.foldl_cons, ih hRest, capacity_offerUser, clientsOf_offerUser]
    by_cases hFirst : user = first
    · rw [if_neg (hFirst ▸ hOnce), if_pos hFirst, if_pos (hFirst ▸ List.mem_cons_self)]
    · have hMem : user ∈ first :: rest ↔ user ∈ rest := by simp [hFirst]
      simp only [if_neg hFirst, hMem]

theorem mem_slow_foldl_iff {users : List String} (hUsers : users.Nodup) (state : Offer × Registry)
    (id : ConnectionId) :
    id ∈ (users.foldl (offerUser frame) state).1.slow ↔ id ∈ state.1.slow ∨
      id.user ∈ users ∧ ∃ c ∈ state.2.clientsOf id.user, c.serial = id.serial ∧
        Refuses state.2.capacity c := by
  induction users generalizing state with
  | nil => simp
  | cons first rest ih =>
    obtain ⟨hOnce, hRest⟩ := List.nodup_cons.1 hUsers
    rw [List.foldl_cons, ih hRest, mem_slow_offerUser_iff, capacity_offerUser, clientsOf_offerUser,
      List.mem_cons]
    by_cases hFirst : id.user = first
    · subst hFirst
      simp [hOnce]
    · simp [hFirst]

/-- A fan-out to everyone offers the frame to each connection. -/
theorem others_offer_everyone (h : r.Distinct) (user : String) :
    (r.offer .everyone frame).2.others X user =
      (r.others X user).map fun c => { c with outbox := c.outbox.offer r.capacity frame } := by
  have hListed : (Audience.everyone.listed r).Nodup := h
  unfold others offer
  rw [clientsOf_foldl_offerUser hListed]
  split
  · exact others_map_offer ..
  · rename_i hUnlisted
    have hNone : r.clientsOf user = [] := by
      unfold clientsOf
      cases hLookup : r.clients.lookup user with
      | none => rfl
      | some clients => exact absurd (mem_of_isSome_lookup (by rw [hLookup]; rfl)) hUnlisted
    rw [hNone]
    rfl

theorem mem_slow_everyone (h : r.Distinct) (id : ConnectionId) :
    id ∈ (r.offer .everyone frame).1.slow ↔
      ∃ c ∈ r.clientsOf id.user, c.serial = id.serial ∧ Refuses r.capacity c := by
  have hListed : (Audience.everyone.listed r).Nodup := h
  unfold offer
  rw [mem_slow_foldl_iff hListed]
  constructor
  · rintro (hNone | ⟨-, hc⟩)
    · simp at hNone
    · exact hc
  · rintro ⟨c, hc, hSerial, hRefuses⟩
    refine .inr ⟨?_, c, hc, hSerial, hRefuses⟩
    apply mem_users_of_isRegistered
    rw [isRegistered, outbox?, Option.isSome_map, List.find?_isSome]
    exact ⟨c, hc, by simpa using hSerial⟩

theorem Alike.offer (h : Alike X r r') (audience : Audience) (frame : Frame) :
    AlikeOffers X (r.offer audience frame) (r'.offer audience frame) := by
  cases audience with
  | users ids =>
    have hStart : AlikeOffers X ({}, r) ({}, r') := ⟨h, fun _ _ => .rfl⟩
    exact hStart.foldl ids
  | everyone =>
    refine ⟨⟨?_, h.distinct.offer .., h.distinct'.offer .., fun user => ?_⟩, fun id hX => ?_⟩
    · rw [capacity_offer, capacity_offer, h.capacity]
    · rw [others_offer_everyone h.distinct, others_offer_everyone h.distinct', h.others, h.capacity]
    · rw [mem_slow_everyone h.distinct, mem_slow_everyone h.distinct', exists_refuses_iff_others hX,
        exists_refuses_iff_others hX, h.others, h.capacity]

end ChatRelay.Registry
