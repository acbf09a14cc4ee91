import ChatRelay.Registry.Lemmas
import Mathlib.Data.List.Nodup

/-! What the operations of the registry do to the queue of each connection.  An operation on one
connection leaves the queues of the others; a fan-out offers its frame once to each connection of the
audience, provided that no user is listed twice, and reports every connection that refused it. -/

/-! ### One queue -/

namespace ChatRelay.Outbox

variable {capacity : Nat} {o : Outbox}

theorem fate_eq_queued_iff :
    o.fate capacity = .queued ↔ o.readerGone = false ∧ o.frames.length < capacity := by
  unfold fate
  cases o.readerGone <;> simp

theorem fate_eq_refused_iff :
    o.fate capacity = .refused ↔ o.readerGone = false ∧ capacity ≤ o.frames.length := by
  unfold fate
  cases o.readerGone <;> simp

theorem fate_eq_dropped_iff : o.fate capacity = .dropped ↔ o.readerGone = true := by
  unfold fate
  cases o.readerGone
  · simp only [Bool.false_eq_true, if_false, iff_false]
    split <;> simp
  · simp

/-- The queue after a frame is offered to it `n` times. -/
def fill (capacity : Nat) (frame : Frame) (n : Nat) (o : Outbox) : Outbox :=
  if o.readerGone then o
  else { o with frames := o.frames ++ List.replicate (min n (capacity - o.frames.length)) frame }

/-- The queue refuses one of `n` frames. -/
def Overflows (capacity n : Nat) (o : Outbox) : Prop :=
  o.readerGone = false ∧ 0 < n ∧ capacity < o.frames.length + n

instance (capacity n : Nat) (o : Outbox) : Decidable (o.Overflows capacity n) :=
  inferInstanceAs (Decidable (_ ∧ _))

@[simp] theorem fill_zero (frame : Frame) : o.fill capacity frame 0 = o := by
  unfold fill
  split
  · rfl
  · simp

theorem not_overflows_zero : ¬ o.Overflows capacity 0 :=
  fun h => absurd h.2.1 (Nat.lt_irrefl 0)

theorem fill_offer (frame : Frame) (n : Nat) :
    (o.offer capacity frame).fill capacity frame n = o.fill capacity frame (n + 1) := by
  unfold offer
  cases hFate : o.fate capacity with
  | queued =>
    obtain ⟨hReader, hRoom⟩ := fate_eq_queued_iff.1 hFate
    have hMin : min (n + 1) (capacity - o.frames.length) =
        min n (capacity - (o.frames.length + 1)) + 1 := by omega
    simp [fill, push, hReader, hMin, List.replicate_succ]
  | refused =>
    obtain ⟨hReader, hFull⟩ := fate_eq_refused_iff.1 hFate
    simp [fill, hReader, Nat.sub_eq_zero_of_le hFull]
  | dropped => simp [fill, fate_eq_dropped_iff.1 hFate]

theorem overflows_succ (frame : Frame) (n : Nat) :
    o.Overflows capacity (n + 1) ↔
      o.fate capacity = .refused ∨ (o.offer capacity frame).Overflows capacity n := by
  unfold offer Overflows
  cases hFate : o.fate capacity with
  | queued =>
    obtain ⟨hReader, hRoom⟩ := fate_eq_queued_iff.1 hFate
    simp only [push, hReader, List.length_append, List.length_singleton, reduceCtorEq, false_or,
      true_and]
    omega
  | refused =>
    obtain ⟨hReader, hFull⟩ := fate_eq_refused_iff.1 hFate
    simp only [hReader, true_and, true_or, iff_true]
    omega
  | dropped => simp [fate_eq_dropped_iff.1 hFate]

/-- What a queue leaves to its reader, if it has one. -/
def remnant? (o : Outbox) : Option Remnant :=
  if o.readerGone then none else some { frames := o.frames }

end ChatRelay.Outbox

namespace ChatRelay.Registry

variable {r : Registry} {id other : ConnectionId} {frame : Frame}

/-! ### Users are listed once -/

/-- No user is listed twice. -/
def Distinct (r : Registry) : Prop :=
  (r.clients.map (·.1)).Nodup

theorem distinct_ofCapacity (capacity : Nat) : (ofCapacity capacity).Distinct :=
  List.nodup_nil

theorem Distinct.setClients (h : r.Distinct) (user : String) (clients : List Client) :
    (r.setClients user clients).Distinct := by
  unfold Registry.setClients
  split
  · exact h.sublist (List.filter_sublist.map _)
  split
  · have hNames : (r.clients.map fun entry => if entry.1 = user then (user, clients) else entry).map
        (·.1) = r.clients.map (·.1) := by
      rw [List.map_map]
      refine List.map_congr_left fun entry _ => ?_
      by_cases hUser : entry.1 = user <;> simp [hUser]
    rw [Distinct, hNames]
    exact h
  · rename_i hNew
    rw [Distinct, List.map_append, List.map_singleton, ← List.concat_eq_append]
    refine List.Nodup.concat (fun hMem => hNew ?_) h
    obtain ⟨entry, hEntry, hUser⟩ := List.mem_map.1 hMem
    exact List.any_eq_true.2 ⟨entry, hEntry, by simpa using hUser⟩

theorem Distinct.setOutbox (h : r.Distinct) (id : ConnectionId) (o : Outbox) :
    (r.setOutbox id o).Distinct :=
  h.setClients ..

theorem Distinct.register (h : r.Distinct) (id : ConnectionId) : (r.register id).2.Distinct := by
  unfold Registry.register
  split
  · exact h.setClients ..
  · exact h

theorem Distinct.unregister (h : r.Distinct) (id : ConnectionId) : (r.unregister id).2.Distinct := by
  unfold Registry.unregister
  split
  · rw [Distinct, clients_leave]
    exact h.setClients ..
  · exact h

theorem Distinct.offer (h : r.Distinct) (audience : Audience) (frame : Frame) :
    (r.offer audience frame).2.Distinct := by
  unfold Registry.offer
  generalize audience.listed r = users
  generalize hState : (({}, r) : Offer × Registry) = state
  have hDistinct : state.2.Distinct := hState ▸ h
  clear hState
  induction users generalizing state with
  | nil => exact hDistinct
  | cons user rest ih => exact ih _ (hDistinct.setClients ..)

theorem Distinct.sendTo (h : r.Distinct) (id : ConnectionId) (frame : Frame) :
    (r.sendTo id frame).2.Distinct := by
  unfold Registry.sendTo
  split
  · split
    · exact h.setOutbox ..
    · exact h
  · exact h

theorem Distinct.take (h : r.Distinct) (id : ConnectionId) : (r.take id).2.Distinct := by
  unfold Registry.take
  split
  · rw [Distinct, clients_takeRemnant]
    exact h
  · split
    · exact h
    · exact h.setOutbox ..

theorem Distinct.dropReader (h : r.Distinct) (id : ConnectionId) : (r.dropReader id).Distinct := by
  unfold Registry.dropReader
  split
  · exact h.setOutbox ..
  · exact h

/-! ### One user's connections -/

theorem outbox?_setClients_of_ne {user : String} (h : id.user ≠ user) (r : Registry)
    (clients : List Client) : (r.setClients user clients).outbox? id = r.outbox? id := by
  rw [outbox?, outbox?, clientsOf_setClients, if_neg h]

theorem outbox?_setClients (r : Registry) (id : ConnectionId) (clients : List Client) :
    (r.setClients id.user clients).outbox? id =
      (clients.find? (·.serial = id.serial)).map (·.outbox) := by
  rw [outbox?, clientsOf_setClients, if_pos rfl]

theorem serial_ne_of_user_eq (h : other ≠ id) (hUser : other.user = id.user) :
    other.serial ≠ id.serial := by
  intro hSerial
  obtain ⟨user, serial⟩ := other
  exact h (by cases id; simp_all)

theorem find?_setOutbox (clients : List Client) (serial other : Uuid) (o : Outbox) :
    ((clients.map fun c => if c.serial = serial then { c with outbox := o } else c).find?
        (·.serial = other)).map (·.outbox) =
      (clients.find? (·.serial = other)).map fun c => if other = serial then o else c.outbox := by
  induction clients with
  | nil => rfl
  | cons c rest ih =>
    rw [List.map_cons]
    by_cases hOther : c.serial = other
    · by_cases hSerial : c.serial = serial <;> simp [← hOther, hSerial]
    · by_cases hSerial : c.serial = serial
      · rw [List.find?_cons_of_neg (by simp [← hSerial, hOther]), ih,
          List.find?_cons_of_neg (by simp [hOther])]
      · rw [List.find?_cons_of_neg (by simp [hSerial, hOther]), ih,
          List.find?_cons_of_neg (by simp [hOther])]

theorem outbox?_setOutbox (h : (r.outbox? id).isSome) (o : Outbox) (other : ConnectionId) :
    (r.setOutbox id o).outbox? other = if other = id then some o else r.outbox? other := by
  unfold setOutbox
  by_cases hUser : other.user = id.user
  · rw [← hUser, outbox?_setClients, find?_setOutbox]
    by_cases hOther : other = id
    · subst hOther
      rw [outbox?, Option.isSome_map] at h
      obtain ⟨c, hFind⟩ := Option.isSome_iff_exists.1 h
      rw [hFind, if_pos rfl, Option.map_some, if_pos rfl]
    · have hSerial := serial_ne_of_user_eq hOther hUser
      simp only [if_neg hOther, if_neg hSerial]
      rfl
  · rw [outbox?_setClients_of_ne hUser, if_neg fun hSame => hUser (congrArg _ hSame)]

theorem mem_of_isSome_lookup {entries : List (String × List Client)} {user : String}
    (h : (entries.lookup user).isSome) : user ∈ entries.map (·.1) := by
  induction entries with
  | nil => contradiction
  | cons entry rest ih =>
    rw [lookup_entry] at h
    rw [List.map_cons, List.mem_cons]
    by_cases hUser : user = entry.1
    · exact .inl hUser
    · rw [if_neg hUser] at h
      exact .inr (ih h)

theorem mem_users_of_isRegistered (h : r.isRegistered id) : id.user ∈ r.clients.map (·.1) := by
  refine mem_of_isSome_lookup ?_
  by_contra hNone
  rw [Option.not_isSome_iff_eq_none] at hNone
  rw [isRegistered, outbox?, clientsOf, hNone] at h
  contradiction

theorem exists_entry_of_mem_clientsOf {user : String} {c : Client} (h : c ∈ r.clientsOf user) :
    ∃ entry ∈ r.clients, c ∈ entry.2 := by
  unfold clientsOf at h
  rcases hLookup : r.clients.lookup user with _ | clients
  · rw [hLookup] at h
    simp at h
  · rw [hLookup] at h
    obtain ⟨before, after, hSplit, -⟩ := List.lookup_eq_some_iff.1 hLookup
    exact ⟨(user, clients), by simp [hSplit], h⟩

/-! ### Registration -/

theorem outbox?_register_of_ne (h : other ≠ id) (r : Registry) :
    (r.register id).2.outbox? other = r.outbox? other := by
  rw [outbox?, outbox?, clientsOf_register]
  split
  · rename_i hUser
    rw [hUser.1, List.find?_append]
    have hSerial := serial_ne_of_user_eq h hUser.1
    have hNew : [({ serial := id.serial } : Client)].find? (·.serial = other.serial) = none := by
      simp [hSerial.symm]
    rw [hNew, Option.or_none]
  · rfl

theorem outbox?_register (hNew : r.outbox? id = none) (h : (r.register id).2.isRegistered id) :
    (r.register id).2.outbox? id = some {} := by
  by_cases hRegistered : (r.register id).1
  · rw [outbox?, Option.map_eq_none_iff] at hNew
    rw [outbox?, clientsOf_register, if_pos ⟨rfl, hRegistered⟩, List.find?_append, hNew]
    simp
  · have hSame : (r.register id).2.outbox? id = none := by
      rw [outbox?, clientsOf_register, if_neg fun hBoth => hRegistered hBoth.2]
      exact hNew
    rw [isRegistered, hSame] at h
    contradiction

theorem outbox?_unregister_of_ne (h : other ≠ id) (r : Registry) :
    (r.unregister id).2.outbox? other = r.outbox? other := by
  rw [outbox?, outbox?, clientsOf_unregister]
  split
  · rename_i hUser
    rw [List.find?_filter, hUser]
    have hSerial := serial_ne_of_user_eq h hUser
    congr 2
    funext c
    by_cases hc : c.serial = other.serial
    · simp [hc, hSerial]
    · simp [hc]
  · rfl

theorem outbox?_unregister (r : Registry) (id : ConnectionId) :
    (r.unregister id).2.outbox? id = none := by
  have h := isRegistered_unregister r id
  rwa [isRegistered, Option.isSome_eq_false_iff, Option.isNone_iff_eq_none] at h

theorem unregister_of_outbox?_eq_none (h : r.outbox? id = none) : r.unregister id = (false, r) := by
  rw [unregister, h]

/-- The end of a registration answers whether there was one. -/
theorem unregister_fst (r : Registry) (id : ConnectionId) : (r.unregister id).1 = r.isRegistered id := by
  unfold unregister isRegistered
  cases r.outbox? id <;> rfl

/-! ### One connection -/

theorem outbox?_sendTo_of_ne (h : other ≠ id) (r : Registry) (frame : Frame) :
    (r.sendTo id frame).2.outbox? other = r.outbox? other := by
  unfold sendTo
  split
  · rename_i o hOutbox
    split
    · rw [outbox?_setOutbox (by rw [hOutbox]; rfl), if_neg h]
    · rfl
  · rfl

theorem outbox?_sendTo {o : Outbox} (h : r.outbox? id = some o) (frame : Frame) :
    (r.sendTo id frame).2.outbox? id =
      some (if o.fate r.capacity = .queued then o.push frame else o) := by
  unfold sendTo
  rw [h]
  dsimp only
  split
  · rw [outbox?_setOutbox (by rw [h]; rfl), if_pos rfl]
  · exact h

theorem outbox?_take_of_ne (h : other ≠ id) (r : Registry) :
    (r.take id).2.outbox? other = r.outbox? other := by
  unfold take
  split
  · exact outbox?_congr (clients_takeRemnant ..) other
  · rename_i o hOutbox
    split
    · rfl
    · rw [outbox?_setOutbox (by rw [hOutbox]; rfl), if_neg h]

/-- The frame that a reader gets, if it gets one. -/
def Reading.frames : Reading → List Frame
  | .frame text => [text]
  | .nothing | .ended => []

theorem take_of_outbox?_eq_none (h : r.outbox? id = none) : r.take id = r.takeRemnant id := by
  rw [take, h]

theorem outbox?_take_eq_none (h : r.outbox? id = none) (other : ConnectionId) :
    (r.take other).2.outbox? id = none := by
  by_cases hOther : id = other
  · subst hOther
    rw [take_of_outbox?_eq_none h, outbox?_congr (clients_takeRemnant ..), h]
  · exact (outbox?_take_of_ne hOther _).trans h

theorem sendTo_of_outbox?_eq_none (h : r.outbox? id = none) (frame : Frame) :
    r.sendTo id frame = (false, r) := by
  rw [sendTo, h]

theorem dropReader_of_outbox?_eq_none (h : r.outbox? id = none) : r.dropReader id = r.forget id := by
  rw [dropReader, h]

theorem take_of_outbox? {o : Outbox} (h : r.outbox? id = some o) :
    (o.frames = [] ∧ r.take id = (.nothing, r)) ∨
      ∃ text rest, o.frames = text :: rest ∧ (r.take id).1 = .frame text ∧
        (r.take id).2.outbox? id = some { o with frames := rest } := by
  unfold take
  rw [h]
  obtain ⟨_ | ⟨text, rest⟩, readerGone⟩ := o
  · exact .inl ⟨rfl, rfl⟩
  · refine .inr ⟨text, rest, rfl, rfl, ?_⟩
    rw [outbox?_setOutbox (by rw [h]; rfl), if_pos rfl]

theorem outbox?_dropReader_of_ne (h : other ≠ id) (r : Registry) :
    (r.dropReader id).outbox? other = r.outbox? other := by
  unfold dropReader
  split
  · rename_i o hOutbox
    rw [outbox?_setOutbox (by rw [hOutbox]; rfl), if_neg h]
  · rfl

theorem outbox?_dropReader_eq_none (h : r.outbox? id = none) (other : ConnectionId) :
    (r.dropReader other).outbox? id = none := by
  by_cases hOther : id = other
  · subst hOther
    rw [dropReader_of_outbox?_eq_none h]
    exact h
  · exact (outbox?_dropReader_of_ne hOther _).trans h

/-! ### The end of a reader, and of its registration -/

theorem setClients_of_any {user : String} {clients : List Client} (h : r.clients.any (·.1 = user))
    (hClients : clients ≠ []) :
    r.setClients user clients =
      { r with clients := r.clients.map fun entry => if entry.1 = user then (user, clients) else entry } := by
  rw [setClients, if_neg (by simpa using hClients), if_pos h]

/-- Of two changes to the connections of a listed user, the second counts. -/
theorem setClients_setClients {user : String} {clients : List Client}
    (h : r.clients.any (·.1 = user)) (hClients : clients ≠ []) (more : List Client) :
    (r.setClients user clients).setClients user more = r.setClients user more := by
  have hFirst := setClients_of_any h hClients
  have hNames : ∀ entry : String × List Client,
      (if entry.1 = user then (user, clients) else entry).1 = entry.1 := by
    intro entry
    split
    · rename_i hUser
      exact hUser.symm
    · rfl
  have hStill : (r.setClients user clients).clients.any (·.1 = user) := by
    rw [hFirst, List.any_map]
    simpa only [Function.comp_def, hNames] using h
  by_cases hMore : more = []
  · subst hMore
    have hNone : ∀ r : Registry,
        r.setClients user [] = { r with clients := r.clients.filter (·.1 ≠ user) } := fun _ => rfl
    rw [hNone, hNone, hFirst, List.filter_map]
    simp only [Function.comp_def, hNames]
    congr 1
    refine (List.map_congr_left fun entry hEntry => if_neg ?_).trans (List.map_id' _)
    simpa using (List.mem_filter.1 hEntry).2
  · rw [setClients_of_any hStill hMore, setClients_of_any h hMore, hFirst, List.map_map]
    congr 1
    refine List.map_congr_left fun entry _ => ?_
    simp only [Function.comp_apply, hNames]
    split <;> rfl

theorem forget_forget (r : Registry) (id : ConnectionId) : (r.forget id).forget id = r.forget id := by
  unfold forget
  simp only [List.filter_filter, Bool.and_self]

theorem forget_leave (r : Registry) (id : ConnectionId) (o : Outbox) :
    (r.leave id o).forget id = r.forget id := by
  unfold leave
  split
  · exact forget_forget r id
  · refine Eq.trans ?_ (forget_forget r id)
    rw [setRemnant, forget, List.filter_cons_of_neg (by simp)]
    rfl

/-- It makes no difference whether a queue is dropped before the end of its registration or after it. -/
theorem unregister_dropReader (r : Registry) (id : ConnectionId) :
    ((r.dropReader id).unregister id).2 = (r.unregister id).2.dropReader id := by
  rw [dropReader_of_outbox?_eq_none (outbox?_unregister r id)]
  rcases hOutbox : r.outbox? id with _ | o
  · rw [dropReader_of_outbox?_eq_none hOutbox, unregister_of_outbox?_eq_none hOutbox,
      unregister_of_outbox?_eq_none (r := r.forget id) hOutbox]
  have hThere : r.isRegistered id := by
    rw [isRegistered, hOutbox]
    rfl
  have hDrop : r.dropReader id = r.setOutbox id { readerGone := true } := by
    rw [dropReader, hOutbox]
  have hStill : (r.setOutbox id { readerGone := true }).outbox? id = some { readerGone := true } := by
    rw [outbox?_setOutbox hThere, if_pos rfl]
  have hListed : r.clients.any (·.1 = id.user) := by
    obtain ⟨entry, hEntry, hUser⟩ := List.mem_map.1 (mem_users_of_isRegistered hThere)
    exact List.any_eq_true.2 ⟨entry, hEntry, by simpa using hUser⟩
  have hClients : r.clientsOf id.user ≠ [] := by
    intro hNil
    rw [outbox?, hNil] at hOutbox
    contradiction
  rw [hDrop, unregister, hStill, unregister, hOutbox]
  dsimp only
  rw [forget_leave]
  unfold setOutbox
  rw [clientsOf_setClients, if_pos rfl, setClients_setClients hListed (by simpa using hClients)]
  refine congrArg (fun clients => (r.setClients id.user clients).forget id) ?_
  -- The queue that was put in place goes with the connection.
  rw [List.filter_map]
  refine (List.map_congr_left fun c hc => if_neg ?_).trans ((List.map_id' _).trans ?_)
  · have hc' := (List.mem_filter.1 hc).2
    intro hSerial
    simp [hSerial] at hc'
  · refine List.filter_congr fun c _ => ?_
    simp only [Function.comp_apply]
    split <;> rfl

/-! ### Fan-out -/

@[simp] theorem capacity_offerUser (frame : Frame) (state : Offer × Registry) (user : String) :
    (offerUser frame state user).2.capacity = state.2.capacity :=
  capacity_setClients ..

theorem find?_offer (clients : List Client) (serial : Uuid) (capacity : Nat) (frame : Frame) :
    ((clients.map fun c => { c with outbox := c.outbox.offer capacity frame }).find?
        (·.serial = serial)).map (·.outbox) =
      ((clients.find? (·.serial = serial)).map (·.outbox)).map (·.offer capacity frame) := by
  induction clients with
  | nil => rfl
  | cons c rest ih =>
    rw [List.map_cons]
    by_cases hSerial : c.serial = serial
    · simp [hSerial]
    · rw [List.find?_cons_of_neg (by simpa using hSerial), ih,
        List.find?_cons_of_neg (by simpa using hSerial)]

theorem outbox?_offerUser (frame : Frame) (state : Offer × Registry) (user : String)
    (id : ConnectionId) :
    (offerUser frame state user).2.outbox? id =
      if id.user = user then (state.2.outbox? id).map (·.offer state.2.capacity frame)
      else state.2.outbox? id := by
  unfold offerUser
  by_cases hUser : id.user = user
  · rw [if_pos hUser, ← hUser, outbox?_setClients, find?_offer]
    rfl
  · rw [if_neg hUser, outbox?_setClients_of_ne hUser]

/-- Offering a frame to users offers it to each of their connections, as often as the user is named. -/
theorem outbox?_fill (users : List String) (state : Offer × Registry) (id : ConnectionId) :
    (users.foldl (offerUser frame) state).2.outbox? id =
      (state.2.outbox? id).map (·.fill state.2.capacity frame (users.count id.user)) := by
  induction users generalizing state with
  | nil => simp
  | cons user rest ih =>
    rw [List.foldl_cons, ih, capacity_offerUser, outbox?_offerUser]
    by_cases hUser : id.user = user
    · rw [if_pos hUser, hUser, List.count_cons_self, Option.map_map]
      congr 1
      funext o
      exact Outbox.fill_offer ..
    · rw [if_neg hUser, List.count_cons_of_ne (Ne.symm hUser)]

/-- Offering a frame to users, each named once, offers it once to each of their connections. -/
theorem outbox?_foldl_offerUser {users : List String} (hUsers : users.Nodup)
    (state : Offer × Registry) (id : ConnectionId) :
    (users.foldl (offerUser frame) state).2.outbox? id =
      if id.user ∈ users then (state.2.outbox? id).map (·.offer state.2.capacity frame)
      else state.2.outbox? id := by
  rw [outbox?_fill]
  split
  · rename_i hListed
    rw [List.count_eq_one_of_mem hUsers hListed]
    congr 1
    funext o
    rw [← Outbox.fill_offer, Outbox.fill_zero]
  · rename_i hOther
    simp [List.count_eq_zero_of_not_mem hOther]

theorem outbox?_offer_eq_none (h : r.outbox? id = none) (audience : Audience) (frame : Frame) :
    (r.offer audience frame).2.outbox? id = none := by
  rw [offer, outbox?_fill, h]
  rfl

theorem slow_subset_offerUser (frame : Frame) (state : Offer × Registry) (user : String) :
    state.1.slow ⊆ (offerUser frame state user).1.slow :=
  List.subset_append_left ..

theorem slow_subset_foldl_offerUser (users : List String) (state : Offer × Registry) :
    state.1.slow ⊆ (users.foldl (offerUser frame) state).1.slow := by
  induction users generalizing state with
  | nil => exact fun _ => id
  | cons user rest ih => exact List.Subset.trans (slow_subset_offerUser frame state user) (ih _)

theorem mem_slow_offerUser {state : Offer × Registry} {o : Outbox}
    (h : state.2.outbox? id = some o) (hRefused : o.fate state.2.capacity = .refused) :
    id ∈ (offerUser frame state id.user).1.slow := by
  obtain ⟨c, hFind, rfl⟩ := Option.map_eq_some_iff.1 h
  have hSerial : c.serial = id.serial := by simpa using List.find?_some hFind
  refine List.mem_append_right _ (List.mem_map.2 ⟨c, List.mem_filter.2 ⟨?_, ?_⟩, ?_⟩)
  · exact List.mem_of_find?_eq_some hFind
  · simpa using hRefused
  · rw [hSerial]

/-- Every connection of the audience that refuses the frame is reported. -/
theorem mem_slow_foldl_offerUser {users : List String} (hUsers : users.Nodup)
    {state : Offer × Registry} {o : Outbox} (hListed : id.user ∈ users)
    (h : state.2.outbox? id = some o) (hRefused : o.fate state.2.capacity = .refused) :
    id ∈ (users.foldl (offerUser frame) state).1.slow := by
  induction users generalizing state with
  | nil => contradiction
  | cons user rest ih =>
    rw [List.foldl_cons]
    by_cases hUser : id.user = user
    · exact slow_subset_foldl_offerUser rest _ (hUser ▸ mem_slow_offerUser h hRefused)
    · refine ih (List.nodup_cons.1 hUsers).2 (List.mem_of_ne_of_mem hUser hListed) ?_ ?_
      · rw [outbox?_offerUser, if_neg hUser, h]
      · rw [capacity_offerUser, hRefused]

theorem mem_slow_offer {audience : Audience} {o : Outbox} (hAudience : (audience.listed r).Nodup)
    (hListed : id.user ∈ audience.listed r) (h : r.outbox? id = some o)
    (hRefused : o.fate r.capacity = .refused) (frame : Frame) :
    id ∈ (r.offer audience frame).1.slow :=
  mem_slow_foldl_offerUser hAudience hListed h hRefused

theorem isSome_outbox?_of_mem_slow {users : List String} {state : Offer × Registry}
    (h : id ∈ (users.foldl (offerUser frame) state).1.slow) :
    id ∈ state.1.slow ∨ (state.2.outbox? id).isSome := by
  induction users generalizing state with
  | nil => exact .inl h
  | cons user rest ih =>
    rcases ih h with hSlow | hSome
    · rcases List.mem_append.1 hSlow with hSlow | hSlow
      · exact .inl hSlow
      · obtain ⟨c, hc, rfl⟩ := List.mem_map.1 hSlow
        right
        rw [outbox?, Option.isSome_map, List.find?_isSome]
        exact ⟨c, List.mem_of_mem_filter hc, by simp⟩
    · right
      rw [outbox?_offerUser] at hSome
      split at hSome
      · rwa [Option.isSome_map] at hSome
      · exact hSome

/-- Ends the registrations of connections. -/
def shed (r : Registry) (slow : List ConnectionId) : Registry :=
  slow.foldl (fun r id => (r.unregister id).2) r

theorem outbox?_shed (r : Registry) (slow : List ConnectionId) (id : ConnectionId) :
    (r.shed slow).outbox? id = if id ∈ slow then none else r.outbox? id := by
  unfold shed
  induction slow generalizing r with
  | nil => rfl
  | cons first rest ih =>
    rw [List.foldl_cons, ih]
    by_cases hFirst : id = first
    · rw [hFirst, outbox?_unregister, ite_self, if_pos List.mem_cons_self]
    · have hMem : id ∈ first :: rest ↔ id ∈ rest := by simp [hFirst]
      simp only [outbox?_unregister_of_ne hFirst, hMem]

/-- The registry after a frame is offered to an audience and the slow connections are ended. -/
def deliver (r : Registry) (audience : Audience) (frame : Frame) : Registry :=
  (r.offer audience frame).2.shed (r.offer audience frame).1.slow

/-- A connection that is still registered after a fan-out has got the frame if it is of the audience
and somebody reads its queue, and nothing else has happened to its queue. -/
theorem outbox?_deliver {audience : Audience} {o : Outbox} (hAudience : (audience.listed r).Nodup)
    (h : r.outbox? id = some o) (hReader : o.readerGone = false)
    (hStays : (r.deliver audience frame).isRegistered id) :
    (r.deliver audience frame).outbox? id =
      some (if id.user ∈ audience.listed r then o.push frame else o) := by
  have hOffer : (r.offer audience frame).2.outbox? id =
      some (if id.user ∈ audience.listed r then o.offer r.capacity frame else o) := by
    rw [offer, outbox?_foldl_offerUser hAudience, h]
    split <;> rfl
  have hNotSlow : id ∉ (r.offer audience frame).1.slow := by
    intro hSlow
    rw [isRegistered, deliver, outbox?_shed, if_pos hSlow] at hStays
    contradiction
  rw [deliver, outbox?_shed, if_neg hNotSlow, hOffer]
  split
  · rename_i hListed
    have hFate : o.fate r.capacity = .queued := by
      by_contra hNot
      refine hNotSlow (mem_slow_offer hAudience hListed h ?_ frame)
      simp only [Outbox.fate, hReader] at hNot ⊢
      grind
    rw [Outbox.offer, hFate]
  · rfl

/-! ### How many frames a queue holds -/

@[simp] theorem capacity_setOutbox (r : Registry) (id : ConnectionId) (o : Outbox) :
    (r.setOutbox id o).capacity = r.capacity :=
  capacity_setClients ..

@[simp] theorem capacity_register (r : Registry) (id : ConnectionId) :
    (r.register id).2.capacity = r.capacity := by
  unfold register
  split
  · exact capacity_setClients ..
  · rfl

@[simp] theorem capacity_unregister (r : Registry) (id : ConnectionId) :
    (r.unregister id).2.capacity = r.capacity := by
  unfold unregister
  split
  · exact (capacity_leave ..).trans (capacity_setClients ..)
  · rfl

@[simp] theorem capacity_offer (r : Registry) (audience : Audience) (frame : Frame) :
    (r.offer audience frame).2.capacity = r.capacity := by
  unfold offer
  generalize audience.listed r = users
  generalize hState : (({}, r) : Offer × Registry) = state
  have hCapacity : state.2.capacity = r.capacity := by rw [← hState]
  clear hState
  induction users generalizing state with
  | nil => exact hCapacity
  | cons user rest ih => exact ih _ ((capacity_offerUser ..).trans hCapacity)

theorem capacity_shed (r : Registry) (slow : List ConnectionId) : (r.shed slow).capacity = r.capacity := by
  unfold shed
  induction slow generalizing r with
  | nil => rfl
  | cons first rest ih => exact (ih _).trans (capacity_unregister ..)

@[simp] theorem capacity_sendTo (r : Registry) (id : ConnectionId) (frame : Frame) :
    (r.sendTo id frame).2.capacity = r.capacity := by
  unfold sendTo
  split
  · split
    · exact capacity_setOutbox ..
    · rfl
  · rfl

@[simp] theorem capacity_take (r : Registry) (id : ConnectionId) :
    (r.take id).2.capacity = r.capacity := by
  unfold take
  split
  · exact capacity_takeRemnant ..
  · split
    · rfl
    · exact capacity_setOutbox ..

@[simp] theorem capacity_dropReader (r : Registry) (id : ConnectionId) :
    (r.dropReader id).capacity = r.capacity := by
  unfold dropReader
  split
  · exact capacity_setOutbox ..
  · rfl

/-! ### What is left of queues -/

@[simp] theorem ended_setOutbox (r : Registry) (id : ConnectionId) (o : Outbox) :
    (r.setOutbox id o).ended = r.ended :=
  ended_setClients ..

@[simp] theorem ended_register (r : Registry) (id : ConnectionId) : (r.register id).2.ended = r.ended := by
  unfold register
  split
  · exact ended_setClients ..
  · rfl

@[simp] theorem ended_sendTo (r : Registry) (id : ConnectionId) (frame : Frame) :
    (r.sendTo id frame).2.ended = r.ended := by
  unfold sendTo
  split
  · split
    · exact ended_setOutbox ..
    · rfl
  · rfl

@[simp] theorem ended_offer (r : Registry) (audience : Audience) (frame : Frame) :
    (r.offer audience frame).2.ended = r.ended := by
  unfold offer
  generalize audience.listed r = users
  generalize hState : (({}, r) : Offer × Registry) = state
  have hEnded : state.2.ended = r.ended := by rw [← hState]
  clear hState
  induction users generalizing state with
  | nil => exact hEnded
  | cons user rest ih => exact ih _ ((ended_setClients ..).trans hEnded)

theorem remnant?_leave (r : Registry) (id : ConnectionId) (o : Outbox) (other : ConnectionId) :
    (r.leave id o).remnant? other = if other = id then o.remnant? else r.remnant? other := by
  unfold leave Outbox.remnant?
  split
  · exact remnant?_forget ..
  · exact remnant?_setRemnant ..

/-- The end of a registration leaves the frames of the queue to its reader. -/
theorem remnant?_unregister (r : Registry) (id other : ConnectionId) :
    (r.unregister id).2.remnant? other =
      if other = id ∧ r.isRegistered id then (r.outbox? id).bind (·.remnant?) else r.remnant? other := by
  unfold unregister isRegistered
  cases hOutbox : r.outbox? id with
  | none => simp
  | some o =>
    dsimp only
    rw [remnant?_leave]
    simp only [Option.isSome_some, and_true, Option.bind_some]
    split
    · rfl
    · exact remnant?_congr (ended_setClients ..) other

theorem remnant?_shed (r : Registry) (slow : List ConnectionId) (id : ConnectionId) :
    (r.shed slow).remnant? id =
      if id ∈ slow ∧ r.isRegistered id then (r.outbox? id).bind (·.remnant?) else r.remnant? id := by
  unfold shed
  induction slow generalizing r with
  | nil => simp
  | cons first rest ih =>
    rw [List.foldl_cons, ih, remnant?_unregister]
    by_cases hFirst : id = first
    · subst hFirst
      simp [isRegistered_unregister]
    · simp [hFirst, isRegistered, outbox?_unregister_of_ne hFirst]

/-! ### What every queue is like -/

/-- The frames of every queue, and those that are left of any, are as `Q` says. -/
structure Everywhere (Q : List Frame → Prop) (r : Registry) : Prop where
  live : ∀ entry ∈ r.clients, ∀ c ∈ entry.2, Q c.outbox.frames
  ended : ∀ entry ∈ r.ended, Q entry.2.frames

namespace Everywhere

variable {Q Q' : List Frame → Prop}

theorem of_nil (hClients : r.clients = []) (hEnded : r.ended = []) : r.Everywhere Q where
  live := by simp [hClients]
  ended := by simp [hEnded]

theorem mono (h : r.Everywhere Q) (hImp : ∀ frames, Q frames → Q' frames) : r.Everywhere Q' :=
  ⟨fun entry hEntry c hc => hImp _ (h.live entry hEntry c hc), fun entry hEntry => hImp _ (h.ended entry hEntry)⟩

theorem clientsOf (h : r.Everywhere Q) {user : String} {c : Client} (hc : c ∈ r.clientsOf user) :
    Q c.outbox.frames := by
  obtain ⟨entry, hEntry, hMem⟩ := exists_entry_of_mem_clientsOf hc
  exact h.live entry hEntry c hMem

theorem outbox? (h : r.Everywhere Q) {o : Outbox} (hOutbox : r.outbox? id = some o) : Q o.frames := by
  obtain ⟨c, hFind, rfl⟩ := Option.map_eq_some_iff.1 hOutbox
  exact h.clientsOf (List.mem_of_find?_eq_some hFind)

theorem remnant? (h : r.Everywhere Q) {remnant : Remnant} (hRemnant : r.remnant? id = some remnant) :
    Q remnant.frames := by
  obtain ⟨before, after, hSplit, -⟩ := List.lookup_eq_some_iff.1 hRemnant
  exact h.ended (id, remnant) (by simp [hSplit])

theorem setClients (h : r.Everywhere Q) {user : String} {clients : List Client}
    (hClients : ∀ c ∈ clients, Q c.outbox.frames) : (r.setClients user clients).Everywhere Q := by
  refine ⟨?_, by simpa using h.ended⟩
  unfold Registry.setClients
  split
  · exact fun entry hEntry => h.live entry (List.mem_of_mem_filter hEntry)
  split
  · intro entry hEntry
    obtain ⟨old, hOld, rfl⟩ := List.mem_map.1 hEntry
    split
    · exact hClients
    · exact h.live old hOld
  · intro entry hEntry
    rcases List.mem_append.1 hEntry with hEntry | hEntry
    · exact h.live entry hEntry
    · obtain rfl := List.mem_singleton.1 hEntry
      exact hClients

theorem setOutbox (h : r.Everywhere Q) (id : ConnectionId) {o : Outbox} (ho : Q o.frames) :
    (r.setOutbox id o).Everywhere Q := by
  refine h.setClients fun c hc => ?_
  obtain ⟨old, hOld, rfl⟩ := List.mem_map.1 hc
  split
  · exact ho
  · exact h.clientsOf hOld

theorem forget (h : r.Everywhere Q) (id : ConnectionId) : (r.forget id).Everywhere Q :=
  ⟨h.live, fun entry hEntry => h.ended entry (List.mem_of_mem_filter hEntry)⟩

theorem setRemnant (h : r.Everywhere Q) (id : ConnectionId) {remnant : Remnant}
    (hRemnant : Q remnant.frames) : (r.setRemnant id remnant).Everywhere Q := by
  refine ⟨h.live, fun entry hEntry => ?_⟩
  rcases List.mem_cons.1 hEntry with rfl | hEntry
  · exact hRemnant
  · exact (h.forget id).ended entry hEntry

theorem register (h : r.Everywhere Q) (hNil : Q []) (id : ConnectionId) :
    (r.register id).2.Everywhere Q := by
  unfold Registry.register
  split
  · refine h.setClients fun c hc => ?_
    rcases List.mem_append.1 hc with hc | hc
    · exact h.clientsOf hc
    · obtain rfl := List.mem_singleton.1 hc
      exact hNil
  · exact h

theorem unregister (h : r.Everywhere Q) (id : ConnectionId) : (r.unregister id).2.Everywhere Q := by
  unfold Registry.unregister
  split
  · rename_i o hOutbox
    have hOthers : (r.setClients id.user
        ((r.clientsOf id.user).filter (·.serial ≠ id.serial))).Everywhere Q :=
      h.setClients fun c hc => h.clientsOf (List.mem_of_mem_filter hc)
    unfold leave
    split
    · exact hOthers.forget id
    · exact hOthers.setRemnant id (h.outbox? hOutbox)
  · exact h

theorem offer (h : r.Everywhere Q) (audience : Audience)
    (hPush : ∀ frames, Q frames → frames.length < r.capacity → Q (frames ++ [frame])) :
    (r.offer audience frame).2.Everywhere Q := by
  unfold Registry.offer
  generalize audience.listed r = users
  generalize hState : (({}, r) : Offer × Registry) = state
  have hEverywhere : state.2.Everywhere Q := hState ▸ h
  have hCapacity : state.2.capacity = r.capacity := by rw [← hState]
  clear hState
  induction users generalizing state with
  | nil => exact hEverywhere
  | cons user rest ih =>
    refine ih _ (hEverywhere.setClients fun c hc => ?_) ((capacity_offerUser ..).trans hCapacity)
    obtain ⟨old, hOld, rfl⟩ := List.mem_map.1 hc
    have hOld := hEverywhere.clientsOf hOld
    dsimp only
    unfold Outbox.offer
    split
    · rename_i hFate
      exact hPush _ hOld (hCapacity ▸ (Outbox.fate_eq_queued_iff.1 hFate).2)
    · exact hOld
    · exact hOld

theorem sendTo (h : r.Everywhere Q) (id : ConnectionId)
    (hPush : ∀ frames, Q frames → frames.length < r.capacity → Q (frames ++ [frame])) :
    (r.sendTo id frame).2.Everywhere Q := by
  unfold Registry.sendTo
  split
  · rename_i o hOutbox
    split
    · rename_i hFate
      exact h.setOutbox id (hPush _ (h.outbox? hOutbox) (Outbox.fate_eq_queued_iff.1 hFate).2)
    · exact h
  · exact h

/-- A frame that is read stood first in a queue, or in what was left of one. -/
theorem take (h : r.Everywhere Q) (hTail : ∀ text frames, Q (text :: frames) → Q frames)
    (id : ConnectionId) :
    (r.take id).2.Everywhere Q ∧ ∀ text ∈ (r.take id).1.frames, ∃ rest, Q (text :: rest) := by
  unfold Registry.take
  split
  · unfold takeRemnant
    split
    · exact ⟨h, by simp [Reading.frames]⟩
    · exact ⟨h, by simp [Reading.frames]⟩
    · rename_i frames hRemnant
      exact ⟨h.setRemnant id (h.remnant? hRemnant :), by simp [Reading.frames]⟩
    · rename_i first rest hRemnant
      refine ⟨h.setRemnant id (hTail _ _ (h.remnant? hRemnant)), fun text hText => ⟨rest, ?_⟩⟩
      exact List.mem_singleton.1 hText ▸ h.remnant? hRemnant
  · rename_i o hOutbox
    split
    · exact ⟨h, by simp [Reading.frames]⟩
    · rename_i first rest hFrames
      have hAll : Q (first :: rest) := hFrames ▸ h.outbox? hOutbox
      refine ⟨h.setOutbox id (hTail _ _ hAll), fun text hText => ⟨rest, ?_⟩⟩
      exact List.mem_singleton.1 hText ▸ hAll

theorem dropReader (h : r.Everywhere Q) (hNil : Q []) (id : ConnectionId) :
    (r.dropReader id).Everywhere Q := by
  unfold Registry.dropReader
  split
  · exact h.setOutbox id hNil
  · exact h.forget id

end Everywhere

end ChatRelay.Registry
