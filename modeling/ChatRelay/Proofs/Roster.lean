import ChatRelay.Proofs.Partition
import Mathlib.Data.Finset.Card

/-! The registry as a finite map of connections.  A `Roster` is the map: which connections are registered,
each with a queue, and what is left to the readers of those that were removed.  What is done to it is said
of each connection by itself, without tables of users, and a fan-out is done at one stroke.  A registry
that represents a roster answers as the roster does (`Registry.Represents.answer`) and goes on to represent
what becomes of it (`Registry.Represents.perform`). -/

namespace ChatRelay

open Registry (Audience Reading)

/-! ### What is done to a registry -/

/-- One thing that is done to a registry. -/
inductive Traffic where
  | register (id : ConnectionId)
  | unregister (id : ConnectionId)
  | deliver (audience : Audience) (frame : Frame)
  | sendTo (id : ConnectionId) (frame : Frame)
  | take (id : ConnectionId)
  | dropReader (id : ConnectionId)

namespace Traffic

/-- What is answered.  A fan-out answers how many connections it has removed. -/
def Answer : Traffic → Type
  | register _ | unregister _ | sendTo .. => Bool
  | deliver .. => Nat
  | take _ => Reading
  | dropReader _ => Unit

/-- What is done, as an activity of the relay; the drop of a reading end is none. -/
def activity : (t : Traffic) → Activity t.Answer
  | register id => Activity.ofAction (.register id)
  | unregister id => Activity.ofAction (.unregister id)
  | deliver audience frame => do
    let delivery ← ChatRelay.deliver audience frame
    return delivery.shed
  | sendTo id frame => Activity.ofAction (.sendTo id frame)
  | take id => Activity.ofAction (.take id)
  | dropReader _ => return ()

def perform : (t : Traffic) → Relay → t.Answer × Relay
  | dropReader id, r => ((), { r with registry := r.registry.dropReader id })
  | t, r => t.activity.run r

theorem perform_deliver (audience : Audience) (frame : Frame) (r : Relay) :
    (deliver audience frame).perform r =
      (((ChatRelay.deliver audience frame).run r).1.shed, ((ChatRelay.deliver audience frame).run r).2) :=
  Activity.run_bind ..

/-- How many connections are reported as removed. -/
def removals : (t : Traffic) → t.Answer → Nat
  | unregister _, (removed : Bool) => if removed then 1 else 0
  | deliver .., (shed : Nat) => shed
  | register _, _ | sendTo .., _ | take _, _ | dropReader _, _ => 0

/-- The connection that is registered. -/
def registers? : Traffic → Option ConnectionId
  | register id => some id
  | _ => none

end Traffic

/-- How often an audience lists a user who has a connection. -/
def Registry.Audience.times : Audience → String → Nat
  | everyone, _ => 1
  | users ids, user => ids.count user

/-! ### The map -/

/-- A finite map of connections.  `queue` says what is in the queue of a member, and `remnant?` what is left
to the reader of a connection that was removed. -/
structure Roster where
  capacity : Nat
  members : Finset ConnectionId := ∅
  queue : ConnectionId → Outbox := fun _ => {}
  remnant? : ConnectionId → Option Remnant := fun _ => none

namespace Roster

/-- Takes connections out of the map, and leaves the frames of each to its reader. -/
def remove (a : Roster) (gone : Finset ConnectionId) : Roster :=
  { a with
    members := a.members \ gone
    remnant? := fun id => if id ∈ gone then (a.queue id).remnant? else a.remnant? id }

/-- The queues after a frame is offered to an audience. -/
def fill (a : Roster) (audience : Audience) (frame : Frame) : Roster :=
  { a with queue := fun id => (a.queue id).fill a.capacity frame (audience.times id.user) }

/-- The members that are too slow for a frame that is offered to an audience. -/
def slow (a : Roster) (audience : Audience) : Finset ConnectionId :=
  a.members.filter fun id => (a.queue id).Overflows a.capacity (audience.times id.user)

def setQueue (a : Roster) (id : ConnectionId) (o : Outbox) : Roster :=
  { a with queue := Function.update a.queue id o }

def setRemnant (a : Roster) (id : ConnectionId) (remnant : Option Remnant) : Roster :=
  { a with remnant? := Function.update a.remnant? id remnant }

/-- Reads what is left of a queue: first that it has ended, and after that its frames and then the end. -/
def takeRemnant (a : Roster) (id : ConnectionId) : Reading × Roster :=
  match a.remnant? id with
  | some ⟨text :: frames, true⟩ => (.frame text, a.setRemnant id (some ⟨frames, true⟩))
  | some ⟨frames, false⟩ => (.ended, a.setRemnant id (some ⟨frames, true⟩))
  | some ⟨[], true⟩ | none => (.ended, a)

def register (a : Roster) (id : ConnectionId) : Bool × Roster :=
  if a.capacity ≤ Outbox.maxCapacity then (true, { a.setQueue id {} with members := insert id a.members })
  else (false, a)

def unregister (a : Roster) (id : ConnectionId) : Bool × Roster :=
  if id ∈ a.members then (true, a.remove {id}) else (false, a)

/-- Offers a frame to an audience, and removes the members that are too slow for it. -/
def deliver (a : Roster) (audience : Audience) (frame : Frame) : Nat × Roster :=
  ((a.slow audience).card, (a.fill audience frame).remove (a.slow audience))

def sendTo (a : Roster) (id : ConnectionId) (frame : Frame) : Bool × Roster :=
  if id ∈ a.members ∧ (a.queue id).readerGone = false ∧ (a.queue id).frames.length < a.capacity then
    (true, a.setQueue id ((a.queue id).push frame))
  else (false, a)

def take (a : Roster) (id : ConnectionId) : Reading × Roster :=
  if id ∈ a.members then
    match (a.queue id).frames with
    | [] => (.nothing, a)
    | text :: frames => (.frame text, a.setQueue id { a.queue id with frames })
  else a.takeRemnant id

def dropReader (a : Roster) (id : ConnectionId) : Roster :=
  if id ∈ a.members then a.setQueue id { readerGone := true } else a.setRemnant id none

/-- What is done to the map, and what it answers. -/
def step (a : Roster) : (t : Traffic) → t.Answer × Roster
  | .register id => a.register id
  | .unregister id => a.unregister id
  | .deliver audience frame => a.deliver audience frame
  | .sendTo id frame => a.sendTo id frame
  | .take id => a.take id
  | .dropReader id => ((), a.dropReader id)

/-- The map after a run, one thing after another. -/
def through (run : List Traffic) (a : Roster) : Roster :=
  run.foldl (fun a t => (a.step t).2) a

/-- The map that a run makes of the empty one, whose queues hold `capacity` frames, and at least one. -/
def after (capacity : Nat) (run : List Traffic) : Roster :=
  through run { capacity := max 1 capacity }

theorem after_append (capacity : Nat) (run more : List Traffic) :
    after capacity (run ++ more) = through more (after capacity run) :=
  List.foldl_append

variable {a : Roster} {id : ConnectionId} {t : Traffic}

/-- Who is in the map after one thing that is done to it. -/
theorem members_step (a : Roster) (t : Traffic) : (a.step t).2.members = match t with
    | .register id => if a.capacity ≤ Outbox.maxCapacity then insert id a.members else a.members
    | .unregister id => a.members \ {id}
    | .deliver audience _ => a.members \ a.slow audience
    | .sendTo .. | .take _ | .dropReader _ => a.members := by
  cases t with
  | register id =>
    rw [step, register]
    dsimp only
    split <;> rfl
  | unregister id =>
    rw [step, unregister]
    split
    · rfl
    · rename_i hGone
      exact (Finset.sdiff_eq_self_of_disjoint (Finset.disjoint_singleton_right.2 hGone)).symm
  | deliver audience frame => rfl
  | sendTo id frame =>
    rw [step, sendTo]
    split <;> rfl
  | take id =>
    rw [step, take, takeRemnant]
    split
    · split <;> rfl
    · split <;> rfl
  | dropReader id =>
    rw [step, dropReader]
    split <;> rfl

/-- Nobody becomes a member but by a registration. -/
theorem notMem_step (hGone : id ∉ a.members) (hNew : t.registers? ≠ some id) :
    id ∉ (a.step t).2.members := by
  rw [members_step]
  cases t with
  | register other =>
    have hOther : id ≠ other := fun hSame => hNew (congrArg some hSame.symm)
    dsimp only
    split <;> simp [hOther, hGone]
  | _ => simp [hGone]

/-- A member is removed when it is unregistered, and when its queue refuses a frame of a fan-out. -/
theorem removed_iff (hMember : id ∈ a.members) :
    id ∉ (a.step t).2.members ↔ t = .unregister id ∨
      ∃ audience frame, t = .deliver audience frame ∧
        (a.queue id).Overflows a.capacity (audience.times id.user) := by
  rw [members_step]
  cases t with
  | register other =>
    dsimp only
    split <;> simp [hMember]
  | unregister other => simp [hMember, eq_comm]
  | deliver audience frame => simp [slow, hMember]
  | _ => simp [hMember]

/-- Whoever reads the queue of a member that was removed has still to be told. -/
theorem told_of_removed (hMember : id ∈ a.members) (hGone : id ∉ (a.step t).2.members) {remnant : Remnant}
    (h : (a.step t).2.remnant? id = some remnant) : remnant.told = false := by
  have hLeft : ∀ o : Outbox, o.remnant? = some remnant → remnant.told = false := by
    intro o ho
    unfold Outbox.remnant? at ho
    split at ho
    · contradiction
    · exact Option.some.inj ho ▸ rfl
  rcases (removed_iff hMember).1 hGone with rfl | ⟨audience, frame, rfl, hSlow⟩
  · rw [step, unregister, if_pos hMember] at h
    exact hLeft (a.queue id) (by simpa [remove] using h)
  · have hMem : id ∈ a.slow audience := Finset.mem_filter.2 ⟨hMember, hSlow⟩
    exact hLeft ((a.fill audience frame).queue id) (by simpa [step, deliver, remove, hMem] using h)

/-- Whoever reads the queue of a connection that is not a member, and has not been told, is told. -/
theorem take_of_not_told (hGone : id ∉ a.members)
    (h : ∀ remnant, a.remnant? id = some remnant → remnant.told = false) : (a.take id).1 = .ended := by
  rw [take, if_neg hGone, takeRemnant]
  split
  · rename_i hRemnant
    exact absurd (h _ hRemnant) (by simp)
  · rfl
  · rfl
  · rfl

/-- What is left to a reader stays as it is unless it reads, or goes. -/
theorem remnant?_step (hGone : id ∉ a.members) (hReader : t ≠ .take id) {remnant : Remnant}
    (h : (a.step t).2.remnant? id = some remnant) : a.remnant? id = some remnant := by
  cases t with
  | register other =>
    rw [step, register] at h
    split at h <;> exact h
  | unregister other =>
    rw [step, unregister] at h
    split at h
    · rename_i hMember
      have hOther : id ≠ other := fun hSame => hGone (hSame ▸ hMember)
      simpa [remove, hOther] using h
    · exact h
  | deliver audience frame =>
    have hStays : id ∉ a.slow audience := fun hSlow => hGone (Finset.mem_of_mem_filter id hSlow)
    simpa [step, deliver, remove, fill, hStays] using h
  | sendTo other frame =>
    rw [step, sendTo] at h
    split at h <;> exact h
  | take other =>
    have hOther : id ≠ other := fun hSame => hReader (hSame ▸ rfl)
    rw [step, take, takeRemnant] at h
    split at h
    · split at h <;> exact h
    · split at h <;> simpa [setRemnant, hOther] using h
  | dropReader other =>
    rw [step, dropReader] at h
    split at h
    · exact h
    · by_cases hOther : id = other <;> simp_all [setRemnant]

/-- A reading of what is left leaves no more of it. -/
theorem remnant?_take (hGone : id ∉ a.members) {remnant : Remnant}
    (h : (a.step (.take id)).2.remnant? id = some remnant) :
    ∃ before, a.remnant? id = some before ∧ remnant.frames <:+ before.frames := by
  rw [step, take, if_neg hGone, takeRemnant] at h
  split at h
  · rename_i text frames hBefore
    obtain rfl : _ = remnant := by simpa [setRemnant] using h
    exact ⟨_, hBefore, List.suffix_cons text frames⟩
  · rename_i frames hBefore
    obtain rfl : _ = remnant := by simpa [setRemnant] using h
    exact ⟨_, hBefore, List.suffix_rfl⟩
  · exact ⟨remnant, h, List.suffix_rfl⟩
  · exact ⟨remnant, h, List.suffix_rfl⟩

/-- A connection that is not in the map, and not registered any more, stays away; its reader gets no more
than what was left to it, and has all of that until it reads. -/
theorem gone_through (hGone : id ∉ a.members) {run : List Traffic}
    (hNew : id ∉ run.filterMap (·.registers?)) :
    id ∉ (through run a).members ∧ ∀ remnant, (through run a).remnant? id = some remnant →
      ∃ before, a.remnant? id = some before ∧ remnant.frames <:+ before.frames ∧
        (.take id ∉ run → remnant = before) := by
  induction run generalizing a with
  | nil => exact ⟨hGone, fun remnant h => ⟨remnant, h, List.suffix_rfl, fun _ => rfl⟩⟩
  | cons t rest ih =>
    have hHere : t.registers? ≠ some id := fun hSame => hNew (by simp [hSame])
    have hLater : id ∉ rest.filterMap (·.registers?) := fun hMem =>
      hNew ((List.sublist_cons_self t rest).filterMap _ |>.subset hMem)
    obtain ⟨hAway, hRest⟩ := ih (notMem_step hGone hHere) hLater
    refine ⟨hAway, fun remnant h => ?_⟩
    obtain ⟨middle, hMiddle, hSuffix, hSame⟩ := hRest remnant h
    by_cases hReader : t = .take id
    · subst hReader
      obtain ⟨before, hBefore, hMore⟩ := remnant?_take hGone hMiddle
      exact ⟨before, hBefore, hSuffix.trans hMore, fun hNot => absurd List.mem_cons_self hNot⟩
    · exact ⟨middle, remnant?_step hGone hReader hMiddle, hSuffix,
        fun hNot => hSame fun hMem => hNot (List.mem_cons_of_mem _ hMem)⟩

end Roster

/-! ### Fan-outs that list a user more than once -/

namespace Registry

variable {r : Registry} {id : ConnectionId} {frame : Frame}

/-- How often a table or a list of users names a user who has a connection. -/
theorem Audience.count_listed (h : r.Distinct) (hThere : r.isRegistered id) (audience : Audience) :
    (audience.listed r).count id.user = audience.times id.user := by
  cases audience with
  | everyone => exact List.count_eq_one_of_mem h (mem_users_of_isRegistered hThere)
  | users ids => rfl

theorem refused_iff (h : r.Distinct) (hOnce : r.present.Nodup) {capacity : Nat} :
    (∃ c ∈ r.clientsOf id.user, c.serial = id.serial ∧ Refuses capacity c) ↔
      ∃ o, r.outbox? id = some o ∧ o.fate capacity = .refused := by
  constructor
  · rintro ⟨c, hc, hSerial, hRefuses⟩
    have hOutbox := outbox?_of_mem_clientsOf h hOnce hc
    rw [hSerial] at hOutbox
    exact ⟨c.outbox, hOutbox, hRefuses⟩
  · rintro ⟨o, hOutbox, hRefuses⟩
    obtain ⟨c, hFind, rfl⟩ := Option.map_eq_some_iff.1 hOutbox
    exact ⟨c, List.mem_of_find?_eq_some hFind, by simpa using List.find?_some hFind, hRefuses⟩

/-- A connection is reported as too slow if its queue refuses the frame one of the times that its user is
listed. -/
theorem mem_slow_foldl_iff_overflows {state : Offer × Registry} (h : state.2.Distinct)
    (hOnce : state.2.present.Nodup) (users : List String) :
    id ∈ (users.foldl (offerUser frame) state).1.slow ↔ id ∈ state.1.slow ∨
      ∃ o, state.2.outbox? id = some o ∧ o.Overflows state.2.capacity (users.count id.user) := by
  induction users generalizing state with
  | nil => simp [Outbox.not_overflows_zero]
  | cons user rest ih =>
    have hOnce' : (offerUser frame state user).2.present.Nodup := by
      rw [List.nodup_iff_count_le_one] at hOnce ⊢
      intro other
      refine le_trans (le_of_eq ?_) (hOnce other)
      exact count_present_map h user
        (f := fun c => { c with outbox := c.outbox.offer state.2.capacity frame }) (fun c => rfl) other
    rw [List.foldl_cons, ih (h.setClients ..) hOnce', mem_slow_offerUser_iff, capacity_offerUser,
      outbox?_offerUser]
    by_cases hUser : id.user = user
    · subst hUser
      rw [if_pos rfl, refused_iff h hOnce, List.count_cons_self, or_assoc]
      refine or_congr .rfl ?_
      cases state.2.outbox? id with
      | none => simp
      | some o => simp [Outbox.overflows_succ frame]
    · rw [if_neg hUser, List.count_cons_of_ne (Ne.symm hUser)]
      simp [hUser]

theorem Tidy.shed (h : r.Tidy) (slow : List ConnectionId) : (r.shed slow).Tidy := by
  unfold Registry.shed
  induction slow generalizing r with
  | nil => exact h
  | cons first rest ih => exact ih (h.unregister first)

theorem count_present_shed (h : r.Distinct) (slow : List ConnectionId) (id : ConnectionId) :
    (r.shed slow).present.count id = if id ∈ slow then 0 else r.present.count id := by
  unfold Registry.shed
  induction slow generalizing r with
  | nil => rfl
  | cons first rest ih =>
    rw [List.foldl_cons, ih (h.unregister first), count_present_unregister h]
    by_cases hFirst : id = first
    · simp [hFirst]
    · simp [hFirst]

end Registry

/-! ### Representation -/

/-- A registry represents a map: the same connections are registered, each once and with the same queue,
and the same is left to the readers of others. -/
structure Registry.Represents (r : Registry) (a : Roster) : Prop where
  tidy : r.Tidy
  capacity : r.capacity = a.capacity
  present : ∀ id, r.present.count id = if id ∈ a.members then 1 else 0
  outbox? : ∀ id, r.outbox? id = if id ∈ a.members then some (a.queue id) else none
  remnant? : ∀ id, r.remnant? id = a.remnant? id

namespace Registry.Represents

variable {r : Registry} {a : Roster} {id : ConnectionId}

theorem start (capacity : Nat) : (Registry.ofCapacity capacity).Represents { capacity := max 1 capacity } where
  tidy := .of_nil rfl
  capacity := rfl
  present _ := rfl
  outbox? _ := rfl
  remnant? _ := rfl

theorem mem_members (h : r.Represents a) : id ∈ a.members ↔ r.isRegistered id := by
  rw [isRegistered, h.outbox?]
  split <;> simp_all

theorem outbox?_of_mem (h : r.Represents a) (hid : id ∈ a.members) : r.outbox? id = some (a.queue id) := by
  rw [h.outbox?, if_pos hid]

theorem outbox?_of_notMem (h : r.Represents a) (hid : id ∉ a.members) : r.outbox? id = none := by
  rw [h.outbox?, if_neg hid]

theorem nodup_present (h : r.Represents a) : r.present.Nodup := by
  rw [List.nodup_iff_count_le_one]
  intro id
  rw [h.present]
  split <;> simp

theorem toFinset_present (h : r.Represents a) : r.present.toFinset = a.members := by
  ext id
  rw [List.mem_toFinset, mem_present h.tidy.distinct, h.mem_members]

/-- What is counted of the registered connections is counted in the map. -/
theorem countP_present (h : r.Represents a) (p : ConnectionId → Bool) :
    r.present.countP p = (a.members.filter fun id => p id).card := by
  rw [List.countP_eq_length_filter, ← List.toFinset_card_of_nodup (h.nodup_present.filter p),
    List.toFinset_filter, h.toFinset_present]

theorem connectionsOf (h : r.Represents a) (user : String) :
    r.connectionsOf user = (a.members.filter (·.user = user)).card := by
  rw [h.tidy.connectionsOf, h.countP_present]
  simp

theorem onlineUsers (h : r.Represents a) : r.onlineUsers = (a.members.image (·.user)).card := by
  rw [h.tidy.onlineUsers, ← h.toFinset_present]
  refine congrArg Finset.card ?_
  ext user
  simp

theorem setOutbox (h : r.Represents a) (hid : id ∈ a.members) (o : Outbox) :
    (r.setOutbox id o).Represents (a.setQueue id o) where
  tidy := h.tidy.setOutbox id o
  capacity := (capacity_setOutbox ..).trans h.capacity
  present other := (count_present_setOutbox h.tidy.distinct id o other).trans (h.present other)
  outbox? other := by
    rw [outbox?_setOutbox (h.mem_members.1 hid), h.outbox?]
    by_cases hOther : other = id
    · subst hOther
      simp [Roster.setQueue, hid]
    · simp [Roster.setQueue, hOther]
  remnant? other := (remnant?_congr (ended_setOutbox ..) other).trans (h.remnant? other)

theorem setRemnant (h : r.Represents a) (id : ConnectionId) (remnant : Remnant) :
    (r.setRemnant id remnant).Represents (a.setRemnant id (some remnant)) where
  tidy := h.tidy.congr rfl
  capacity := h.capacity
  present := h.present
  outbox? := h.outbox?
  remnant? other := by
    rw [remnant?_setRemnant, h.remnant?]
    simp [Roster.setRemnant, Function.update_apply]

theorem forget (h : r.Represents a) (id : ConnectionId) :
    (r.forget id).Represents (a.setRemnant id none) where
  tidy := h.tidy.congr rfl
  capacity := h.capacity
  present := h.present
  outbox? := h.outbox?
  remnant? other := by
    rw [remnant?_forget, h.remnant?]
    simp [Roster.setRemnant, Function.update_apply]

/-! #### One thing that is done -/

/-- The registry and the map answer the same, and the registry goes on to represent the map. -/
def Agree {α : Type} (x : α × Registry) (y : α × Roster) : Prop :=
  x.1 = y.1 ∧ x.2.Represents y.2

theorem register (h : r.Represents a) (hNew : id ∉ a.members) :
    Agree (r.register id) (a.register id) := by
  have hNone := h.outbox?_of_notMem hNew
  by_cases hRoom : a.capacity ≤ Outbox.maxCapacity
  swap
  · have hRefused : r.register id = (false, r) := if_neg (h.capacity ▸ hRoom)
    rw [Roster.register, if_neg hRoom, hRefused]
    exact ⟨rfl, h⟩
  have hDone : (r.register id).1 = true := by
    rw [Registry.register, if_pos (h.capacity ▸ hRoom)]
  rw [Roster.register, if_pos hRoom]
  refine ⟨hDone, h.tidy.register id, (capacity_register ..).trans h.capacity, fun other => ?_,
    fun other => ?_, fun other => (remnant?_congr (ended_register ..) other).trans (h.remnant? other)⟩
  · rw [count_present_register h.tidy.distinct, h.present, hDone]
    by_cases hOther : other = id
    · simp [hOther, hNew]
    · simp [hOther]
  · by_cases hOther : other = id
    · subst hOther
      rw [Registry.outbox?_register hNone (isRegistered_register hDone)]
      simp [Roster.setQueue]
    · rw [outbox?_register_of_ne hOther, h.outbox?]
      simp [Roster.setQueue, hOther]

theorem shed (h : r.Represents a) {slow : List ConnectionId} (hSlow : slow.toFinset ⊆ a.members) :
    (r.shed slow).Represents (a.remove slow.toFinset) where
  tidy := h.tidy.shed slow
  capacity := (capacity_shed ..).trans h.capacity
  present id := by
    rw [count_present_shed h.tidy.distinct, h.present]
    by_cases hid : id ∈ slow <;> simp [Roster.remove, hid]
  outbox? id := by
    rw [outbox?_shed, h.outbox?]
    by_cases hid : id ∈ slow <;> simp [Roster.remove, hid]
  remnant? id := by
    rw [remnant?_shed, h.remnant?]
    by_cases hid : id ∈ slow
    · have hMember := hSlow (List.mem_toFinset.2 hid)
      simp [Roster.remove, hid, h.mem_members.1 hMember, h.outbox?_of_mem hMember]
    · simp [Roster.remove, hid]

theorem unregister (h : r.Represents a) (id : ConnectionId) :
    Agree (r.unregister id) (a.unregister id) := by
  rw [Roster.unregister]
  split
  · rename_i hid
    refine ⟨(unregister_fst ..).trans (h.mem_members.1 hid), ?_⟩
    have hShed : (r.shed [id]).Represents (a.remove [id].toFinset) := h.shed (by simpa using hid)
    simpa [Registry.shed] using hShed
  · rename_i hid
    rw [unregister_of_outbox?_eq_none (h.outbox?_of_notMem hid)]
    exact ⟨rfl, h⟩

theorem offer (h : r.Represents a) (audience : Audience) (frame : Frame) :
    (r.offer audience frame).2.Represents (a.fill audience frame) where
  tidy := h.tidy.offer audience frame
  capacity := (capacity_offer ..).trans h.capacity
  present id := (count_present_offer h.tidy.distinct ..).trans (h.present id)
  outbox? id := by
    rw [Registry.offer, outbox?_fill, h.outbox?]
    by_cases hid : id ∈ a.members
    · simp [Roster.fill, hid, h.capacity, Audience.count_listed h.tidy.distinct (h.mem_members.1 hid)]
    · simp [Roster.fill, hid]
  remnant? id := (remnant?_congr (ended_offer ..) id).trans (h.remnant? id)

theorem mem_slow (h : r.Represents a) (audience : Audience) (frame : Frame) :
    id ∈ (r.offer audience frame).1.slow ↔ id ∈ a.slow audience := by
  rw [Registry.offer, mem_slow_foldl_iff_overflows h.tidy.distinct h.nodup_present, h.outbox?,
    Roster.slow, Finset.mem_filter]
  by_cases hid : id ∈ a.members
  · simp [hid, h.capacity, Audience.count_listed h.tidy.distinct (h.mem_members.1 hid)]
  · simp [hid]

theorem deliver {r : Relay} (h : r.registry.Represents a) (audience : Audience) (frame : Frame) :
    ((ChatRelay.deliver audience frame).run r).1.shed = (a.deliver audience frame).1 ∧
      ((ChatRelay.deliver audience frame).run r).2.registry.Represents (a.deliver audience frame).2 := by
  have hOffer := h.offer audience frame
  have hSlow : (r.registry.offer audience frame).1.slow.toFinset = a.slow audience := by
    ext id
    rw [List.mem_toFinset, h.mem_slow]
  have hMembers : a.slow audience ⊆ (a.fill audience frame).members := Finset.filter_subset ..
  constructor
  · have hShed : ((ChatRelay.deliver audience frame).run r).1.shed =
        ((shedAll (r.registry.offer audience frame).1.slow).run
          { r with registry := (r.registry.offer audience frame).2 }).1 := by
      unfold ChatRelay.deliver
      rw [Activity.run_bind, Activity.run_bind, Activity.run_ofAction, Activity.run_pure]
      rfl
    rw [hShed, shedAll_card, hSlow, Finset.filter_true_of_mem fun id hid =>
      hOffer.mem_members.1 (hMembers hid)]
    rfl
  · rw [deliver_run, Registry.deliver]
    have hLeft := hOffer.shed (hSlow ▸ hMembers)
    rwa [hSlow] at hLeft

theorem sendTo (h : r.Represents a) (id : ConnectionId) (frame : Frame) :
    Agree (r.sendTo id frame) (a.sendTo id frame) := by
  by_cases hid : id ∈ a.members
  · have hOutbox := h.outbox?_of_mem hid
    rw [Registry.sendTo, hOutbox, Roster.sendTo, h.capacity]
    simp only [hid, Outbox.fate_eq_queued_iff, true_and]
    split
    · exact ⟨rfl, h.setOutbox hid _⟩
    · exact ⟨rfl, h⟩
  · rw [sendTo_of_outbox?_eq_none (h.outbox?_of_notMem hid), Roster.sendTo,
      if_neg fun hBoth => hid hBoth.1]
    exact ⟨rfl, h⟩

theorem takeRemnant (h : r.Represents a) (id : ConnectionId) :
    Agree (r.takeRemnant id) (a.takeRemnant id) := by
  unfold Registry.takeRemnant Roster.takeRemnant
  rw [h.remnant?]
  rcases a.remnant? id with _ | ⟨_ | ⟨text, frames⟩, _ | _⟩
  · exact ⟨rfl, h⟩
  · exact ⟨rfl, h.setRemnant ..⟩
  · exact ⟨rfl, h⟩
  · exact ⟨rfl, h.setRemnant ..⟩
  · exact ⟨rfl, h.setRemnant ..⟩

theorem take (h : r.Represents a) (id : ConnectionId) : Agree (r.take id) (a.take id) := by
  by_cases hid : id ∈ a.members
  · rw [Registry.take, h.outbox?_of_mem hid, Roster.take, if_pos hid]
    dsimp only
    cases (a.queue id).frames with
    | nil => exact ⟨rfl, h⟩
    | cons text frames => exact ⟨rfl, h.setOutbox hid _⟩
  · rw [take_of_outbox?_eq_none (h.outbox?_of_notMem hid), Roster.take, if_neg hid]
    exact h.takeRemnant id

theorem dropReader (h : r.Represents a) (id : ConnectionId) :
    (r.dropReader id).Represents (a.dropReader id) := by
  by_cases hid : id ∈ a.members
  · rw [Registry.dropReader, h.outbox?_of_mem hid, Roster.dropReader, if_pos hid]
    exact h.setOutbox hid _
  · rw [dropReader_of_outbox?_eq_none (h.outbox?_of_notMem hid), Roster.dropReader, if_neg hid]
    exact h.forget id

/-- Whatever is done, the registry answers as the map does. -/
theorem answer {r : Relay} (h : r.registry.Represents a) (t : Traffic) :
    (t.perform r).1 = (a.step t).1 := by
  cases t with
  | register id =>
    have hAnswer : (r.registry.register id).1 = (a.register id).1 := by
      rw [Registry.register, Roster.register, h.capacity]
      split <;> rfl
    exact hAnswer
  | unregister id => exact (h.unregister id).1
  | deliver audience frame =>
    rw [Traffic.perform_deliver]
    exact (h.deliver audience frame).1
  | sendTo id frame => exact (h.sendTo id frame).1
  | take id => exact (h.take id).1
  | dropReader id => rfl

/-- Whatever is done, the registry does as the map does; an id that is registered is a new one. -/
theorem perform {r : Relay} (h : r.registry.Represents a) (t : Traffic)
    (hNew : ∀ id, t.registers? = some id → id ∉ a.members) :
    (t.perform r).2.registry.Represents (a.step t).2 := by
  cases t with
  | register id => exact (h.register (hNew id rfl)).2
  | unregister id => exact (h.unregister id).2
  | deliver audience frame =>
    rw [Traffic.perform_deliver]
    exact (h.deliver audience frame).2
  | sendTo id frame => exact (h.sendTo id frame).2
  | take id => exact (h.take id).2
  | dropReader id => exact h.dropReader id

end Registry.Represents

end ChatRelay
