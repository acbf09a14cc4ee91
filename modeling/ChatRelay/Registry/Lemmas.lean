import ChatRelay.Registry

/-! What the operations of the registry do to the connections of each user.  `clientsOf_setClients` says
that a change to one user's connections is seen by that user alone; the others follow from it. -/

namespace ChatRelay.Registry

/-! ### Entries by key -/

section

variable {κ β : Type} [BEq κ] [LawfulBEq κ] [DecidableEq κ]

theorem lookup_entry (name : κ) (value : β) (rest : List (κ × β)) (key : κ) :
    ((name, value) :: rest).lookup key = if key = name then some value else rest.lookup key := by
  rw [List.lookup_cons]
  by_cases h : key = name
  · rw [if_pos h, h, beq_self_eq_true]
  · rw [if_neg h, beq_false_of_ne h]

theorem lookup_filter_ne (entries : List (κ × β)) (key other : κ) :
    (entries.filter (·.1 ≠ key)).lookup other = if other = key then none else entries.lookup other := by
  induction entries with
  | nil => simp
  | cons entry rest ih =>
    by_cases hName : entry.1 = key
    · rw [List.filter_cons_of_neg (by simp [hName]), ih, lookup_entry]
      grind
    · rw [List.filter_cons_of_pos (by simp [hName]), lookup_entry, lookup_entry, ih]
      grind

end

theorem lookup_map_entry (entries : List (String × List Client)) (user other : String)
    (clients : List Client) :
    (entries.map fun entry => if entry.1 = user then (user, clients) else entry).lookup other =
      if other = user then (entries.lookup user).map fun _ => clients else entries.lookup other := by
  induction entries with
  | nil => simp
  | cons entry rest ih =>
    rw [List.map_cons]
    by_cases hName : entry.1 = user
    · rw [if_pos hName, lookup_entry, lookup_entry, lookup_entry, ih]
      grind
    · rw [if_neg hName, lookup_entry, lookup_entry, lookup_entry, ih]
      grind

theorem isSome_lookup_of_any {entries : List (String × List Client)} {user : String}
    (h : entries.any (·.1 = user)) : (entries.lookup user).isSome := by
  induction entries with
  | nil => simp at h
  | cons entry rest ih =>
    rw [lookup_entry]
    grind

theorem lookup_eq_none_of_any {entries : List (String × List Client)} {user : String}
    (h : ¬ entries.any (·.1 = user)) : entries.lookup user = none := by
  induction entries with
  | nil => rfl
  | cons entry rest ih =>
    rw [lookup_entry]
    grind

/-! ### Connections of a user -/

/-- A change to one user's connections leaves those of the others. -/
theorem clientsOf_setClients (r : Registry) (user other : String) (clients : List Client) :
    (r.setClients user clients).clientsOf other =
      if other = user then clients else r.clientsOf other := by
  unfold setClients clientsOf
  split
  · rename_i h
    rw [lookup_filter_ne, List.isEmpty_iff.1 h]
    split <;> rfl
  · split
    · rename_i h
      rw [lookup_map_entry]
      obtain ⟨old, hOld⟩ := Option.isSome_iff_exists.1 (isSome_lookup_of_any h)
      rw [hOld]
      split <;> rfl
    · rename_i h
      rw [List.lookup_append, lookup_entry, List.lookup_nil]
      split
      · rename_i hOther
        rw [hOther, lookup_eq_none_of_any h]
        rfl
      · rw [Option.or_none]

@[simp] theorem capacity_setClients (r : Registry) (user : String) (clients : List Client) :
    (r.setClients user clients).capacity = r.capacity := by
  unfold setClients
  split
  · rfl
  · split <;> rfl

/-! ### What is left of queues -/

@[simp] theorem clients_leave (r : Registry) (id : ConnectionId) (o : Outbox) :
    (r.leave id o).clients = r.clients := by
  unfold leave
  split <;> rfl

@[simp] theorem capacity_leave (r : Registry) (id : ConnectionId) (o : Outbox) :
    (r.leave id o).capacity = r.capacity := by
  unfold leave
  split <;> rfl

@[simp] theorem clients_takeRemnant (r : Registry) (id : ConnectionId) :
    (r.takeRemnant id).2.clients = r.clients := by
  unfold takeRemnant
  split <;> rfl

@[simp] theorem capacity_takeRemnant (r : Registry) (id : ConnectionId) :
    (r.takeRemnant id).2.capacity = r.capacity := by
  unfold takeRemnant
  split <;> rfl

/-- Where the same connections are listed, the same are registered, with the same queues. -/
theorem clientsOf_congr {r r' : Registry} (h : r.clients = r'.clients) (user : String) :
    r.clientsOf user = r'.clientsOf user := by
  rw [clientsOf, h, clientsOf]

theorem outbox?_congr {r r' : Registry} (h : r.clients = r'.clients) (id : ConnectionId) :
    r.outbox? id = r'.outbox? id := by
  rw [outbox?, clientsOf_congr h, outbox?]

@[simp] theorem ended_setClients (r : Registry) (user : String) (clients : List Client) :
    (r.setClients user clients).ended = r.ended := by
  unfold setClients
  split
  · rfl
  · split <;> rfl

theorem remnant?_congr {r r' : Registry} (h : r.ended = r'.ended) (id : ConnectionId) :
    r.remnant? id = r'.remnant? id := by
  rw [remnant?, h, remnant?]

theorem remnant?_forget (r : Registry) (id other : ConnectionId) :
    (r.forget id).remnant? other = if other = id then none else r.remnant? other :=
  lookup_filter_ne ..

theorem remnant?_setRemnant (r : Registry) (id : ConnectionId) (remnant : Remnant)
    (other : ConnectionId) :
    (r.setRemnant id remnant).remnant? other = if other = id then some remnant else r.remnant? other := by
  refine (lookup_entry ..).trans ?_
  split
  · rfl
  · rename_i hOther
    exact (remnant?_forget ..).trans (if_neg hOther)

/-! ### Registration -/

/-- A registration adds a connection with an empty queue, after the user's others. -/
theorem clientsOf_register (r : Registry) (id : ConnectionId) (user : String) :
    (r.register id).2.clientsOf user =
      if user = id.user ∧ (r.register id).1 then
        r.clientsOf id.user ++ [{ serial := id.serial }]
      else r.clientsOf user := by
  unfold register
  split
  · rw [clientsOf_setClients]
    simp
  · simp

theorem isRegistered_register {r : Registry} {id : ConnectionId} (h : (r.register id).1) :
    (r.register id).2.isRegistered id = true := by
  unfold isRegistered outbox?
  rw [clientsOf_register, if_pos ⟨rfl, h⟩, Option.isSome_map, List.find?_isSome]
  exact ⟨{ serial := id.serial }, by simp, by simp⟩

/-- The end of a registration takes the connection away and leaves the others. -/
theorem clientsOf_unregister (r : Registry) (id : ConnectionId) (user : String) :
    (r.unregister id).2.clientsOf user =
      if user = id.user then (r.clientsOf id.user).filter (·.serial ≠ id.serial)
      else r.clientsOf user := by
  unfold unregister
  split
  · exact (clientsOf_congr (clients_leave ..) user).trans (clientsOf_setClients ..)
  · rename_i h
    split
    · rename_i hUser
      rw [hUser]
      refine (List.filter_eq_self.2 fun c hc => ?_).symm
      rw [outbox?, Option.map_eq_none_iff, List.find?_eq_none] at h
      simpa using h c hc
    · rfl

theorem isRegistered_unregister (r : Registry) (id : ConnectionId) :
    (r.unregister id).2.isRegistered id = false := by
  unfold isRegistered outbox?
  rw [clientsOf_unregister, if_pos rfl, Option.isSome_map, List.find?_filter]
  simp

end ChatRelay.Registry
