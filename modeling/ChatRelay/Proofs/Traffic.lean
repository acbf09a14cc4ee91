import ChatRelay.Proofs.Ledger
import ChatRelay.Proofs.Roster
import ChatRelay.Proofs.Trail
import ChatRelay.Startup

/-! Runs of a registry.  Whatever is done to a new registry, one thing after another, it stands for the finite
map that the same run makes of the empty one: `Traffic.Refines` says what that means for its tables, for
what it answers and reports, and for the connections that it has removed, and `Traffic.registry_refines`
that it holds after every run in which no id is given twice. -/

namespace ChatRelay

open Registry (Audience)

variable {r : Relay} {past : List Performed}

theorem Ledger.run {α : Type} (h : Ledger r.registry past) (t : Activity α) :
    Ledger (t.run r).2.registry (past ++ t.trail r) := by
  induction t generalizing r past with
  | done a => rwa [Activity.trail, List.append_nil]
  | act action next ih =>
    have hRest := ih (action.perform r).1 (h.perform action)
    rwa [List.append_assoc] at hRest

/-! ### Fan-out -/

/-- To end the registrations of connections is one action for each, in order, and counts those that end. -/
theorem shedAll_heeds (slow : List ConnectionId) (past : List Performed) :
    (shedAll slow).Heeds (fun past' action => past <+: past' ∧ ∃ id ∈ slow, action = .unregister id)
      (fun past' shed => ∃ more, past' = past ++ more ∧
        more.map (·.action) = slow.map Action.unregister ∧ shed = (left more).length) past := by
  induction slow generalizing past with
  | nil => exact ⟨[], (List.append_nil past).symm, rfl, rfl⟩
  | cons id rest ih =>
    refine (Activity.heeds_bind _ _).2
      ⟨⟨List.prefix_rfl, id, List.mem_cons_self, rfl⟩, fun removed => ?_⟩
    refine (Activity.heeds_bind _ _).2 ((ih _).mono ?_ ?_)
    · rintro past' action ⟨hPast, other, hOther, rfl⟩
      exact ⟨(List.prefix_append ..).trans hPast, other, List.mem_cons_of_mem _ hOther, rfl⟩
    · rintro _ _ ⟨more, rfl, hMore, rfl⟩
      refine ⟨⟨.unregister id, removed⟩ :: more, ?_, ?_, ?_⟩
      · rw [List.append_assoc, List.singleton_append]
      · rw [List.map_cons, List.map_cons, hMore]
      · have hCons : left (⟨.unregister id, removed⟩ :: more) =
            left [⟨.unregister id, removed⟩] ++ left more := left_append [_] more
        rw [hCons, List.length_append]
        cases removed <;> rfl

/-- What a fan-out has done by the time it returns: it offered its frame once, and then ended each
connection that was too slow for it. -/
structure FannedOut (audience : Audience) (frame : Frame) (past : List Performed) (d : Delivery) :
    Prop where
  trail : ∃ (report : Registry.Offer) (more : List Performed),
    past = ⟨.offer audience frame, report⟩ :: more ∧ more.map (·.action) = report.slow.map .unregister
  shed : d.shed = (left past).length

/-- A fan-out of a frame may offer it as its first action, and after that end registrations. -/
def MayFanOut (audience : Audience) (frame : Frame) : List Performed → Action → Prop
  | [], action => action = .offer audience frame
  | _ :: _, action => ∃ id, action = .unregister id

theorem deliver_heeds (audience : Audience) (frame : Frame) :
    (deliver audience frame).Heeds (MayFanOut audience frame) (FannedOut audience frame) [] := by
  refine (Activity.heeds_bind _ _).2 ⟨rfl, fun report => ?_⟩
  refine (Activity.heeds_bind _ _).2 ((shedAll_heeds report.slow _).mono ?_ ?_)
  · rintro past action ⟨⟨more, rfl⟩, id, -, rfl⟩
    exact ⟨id, rfl⟩
  · rintro _ _ ⟨more, rfl, hMore, rfl⟩
    exact ⟨⟨report, more, rfl, hMore⟩, rfl⟩

/-! ### Runs -/

theorem Action.everywhere_perform {n : Nat} {r : Relay} (h : r.registry.Everywhere (·.length ≤ n))
    (hCapacity : r.registry.capacity ≤ n) (action : Action) :
    (action.perform r).2.registry.Everywhere (·.length ≤ n) := by
  have hPush : ∀ (frame : Frame) (frames : List Frame), frames.length ≤ n →
      frames.length < r.registry.capacity → (frames ++ [frame]).length ≤ n := by
    intro frame frames _ hRoom
    rw [List.length_append, List.length_singleton]
    omega
  cases action with
  | call c => exact h
  | stamp wall => exact h
  | offer audience frame => exact h.offer audience (hPush frame)
  | sendTo id frame => exact h.sendTo id (hPush frame)
  | register id => exact h.register (Nat.zero_le n) id
  | unregister id => exact h.unregister id
  | take id => exact (h.take (fun _ _ hAll => Nat.le_of_succ_le hAll) id).1

namespace Traffic

/-- The relay after a run. -/
def through (run : List Traffic) (r : Relay) : Relay :=
  run.foldl (fun r t => (t.perform r).2) r

/-- The actions of a run, with their answers. -/
def trail : List Traffic → Relay → List Performed
  | [], _ => []
  | t :: rest, r => t.activity.trail r ++ trail rest (t.perform r).2

/-- How many connections a run reports as removed. -/
def reported : List Traffic → Relay → Nat
  | [], _ => 0
  | t :: rest, r => t.removals (t.perform r).1 + reported rest (t.perform r).2

theorem perform_preserves {P : Relay → Prop}
    (hAction : ∀ (action : Action) r, P r → P (action.perform r).2)
    (hDrop : ∀ id r, P r → P { r with registry := r.registry.dropReader id }) (t : Traffic) {r : Relay}
    (h : P r) : P (t.perform r).2 := by
  cases t with
  | dropReader id => exact hDrop id r h
  | _ => exact Activity.run_preserves hAction _ h

theorem capacity_perform (t : Traffic) (r : Relay) :
    (t.perform r).2.registry.capacity = r.registry.capacity :=
  t.perform_preserves (P := fun r₁ => r₁.registry.capacity = r.registry.capacity)
    (fun action r₁ h => (action.capacity_perform r₁).trans h)
    (fun _ _ h => (Registry.capacity_dropReader ..).trans h) rfl

/-- No queue outgrows its bound, nor what is left of one. -/
theorem everywhere_through {n : Nat} (run : List Traffic) {r : Relay}
    (h : r.registry.Everywhere (·.length ≤ n)) (hCapacity : r.registry.capacity ≤ n) :
    (through run r).registry.Everywhere (·.length ≤ n) := by
  induction run generalizing r with
  | nil => exact h
  | cons t rest ih =>
    refine ih ?_ ((t.capacity_perform r).trans_le hCapacity)
    refine (t.perform_preserves (P := fun r₁ => r₁.registry.capacity ≤ n ∧
      r₁.registry.Everywhere (·.length ≤ n)) (fun action r₁ hr => ⟨?_, ?_⟩) (fun id r₁ hr => ⟨?_, ?_⟩)
      ⟨hCapacity, h⟩).2
    · exact (action.capacity_perform r₁).trans_le hr.1
    · exact action.everywhere_perform hr.2 hr.1
    · exact (Registry.capacity_dropReader ..).trans_le hr.1
    · exact hr.2.dropReader (Nat.zero_le n) id

theorem ledger_perform (h : Ledger r.registry past) (t : Traffic) :
    Ledger (t.perform r).2.registry (past ++ t.activity.trail r) := by
  cases t with
  | dropReader id => exact (List.append_nil past).symm ▸ h.dropReader id
  | _ => exact h.run _

theorem ledger_through (run : List Traffic) (h : Ledger r.registry past) :
    Ledger (through run r).registry (past ++ trail run r) := by
  induction run generalizing r past with
  | nil => rwa [trail, List.append_nil]
  | cons t rest ih =>
    rw [trail, ← List.append_assoc]
    exact ih (ledger_perform h t)

/-- Everything reports as many connections as it is seen to remove, and only a registration lets one join. -/
theorem activity_heeds (t : Traffic) (hOther : t.registers? = none) :
    t.activity.Heeds (fun _ _ => True)
      (fun past answer => t.removals answer = (left past).length ∧ joined past = []) [] := by
  cases t with
  | register id => contradiction
  | deliver audience frame =>
    refine (Activity.heeds_bind _ _).2 ((deliver_heeds audience frame).mono (fun _ _ _ => trivial) ?_)
    rintro _ d ⟨⟨report, more, rfl, hMore⟩, hShed⟩
    refine ⟨hShed, List.filterMap_eq_nil_iff.2 fun e he => ?_⟩
    rcases List.mem_cons.1 he with rfl | he
    · rfl
    · obtain ⟨id, -, hAction⟩ := List.mem_map.1 (hMore ▸ List.mem_map_of_mem he)
      obtain ⟨action, answer⟩ := e
      obtain rfl : _ = action := hAction
      rfl
  | unregister id =>
    refine ⟨trivial, fun removed => ?_⟩
    cases removed with
    | true => exact ⟨rfl, rfl⟩
    | false => exact ⟨rfl, rfl⟩
  | dropReader id => exact ⟨rfl, rfl⟩
  | sendTo id frame => exact ⟨trivial, fun _ => ⟨rfl, rfl⟩⟩
  | take id => exact ⟨trivial, fun _ => ⟨rfl, rfl⟩⟩

theorem removals_perform (t : Traffic) (r : Relay) :
    t.removals (t.perform r).1 = (left (t.activity.trail r)).length := by
  cases t with
  | dropReader id => rfl
  | register id => rfl
  | _ =>
    refine ((activity_heeds _ ?_).run r).1
    rfl

theorem reported_eq (run : List Traffic) (r : Relay) : reported run r = (left (trail run r)).length := by
  induction run generalizing r with
  | nil => rfl
  | cons t rest ih => rw [reported, trail, left_append, List.length_append, ih, removals_perform]

theorem joined_perform (t : Traffic) (r : Relay) :
    joined (t.activity.trail r) =
      if r.registry.capacity ≤ Outbox.maxCapacity then t.registers?.toList else [] := by
  cases hOther : t.registers? with
  | none => exact ((activity_heeds t hOther).run r).2.trans (ite_self _).symm
  | some id =>
    cases t with
    | register other =>
      obtain rfl : other = id := Option.some.inj hOther
      have hTrail : (register other).activity.trail r = [(Action.register other).performed r] := rfl
      rw [hTrail, Action.performed_register, Registry.register]
      split <;> rfl
    | _ => contradiction

/-- By the end of a run, whoever was registered has joined, if there can be queues. -/
theorem joined_trail (run : List Traffic) (r : Relay) :
    joined (trail run r) =
      if r.registry.capacity ≤ Outbox.maxCapacity then run.filterMap registers? else [] := by
  induction run generalizing r with
  | nil => exact (ite_self _).symm
  | cons t rest ih =>
    rw [trail, joined_append, joined_perform, ih, capacity_perform]
    split
    · cases hRegisters : t.registers? <;> simp [hRegisters]
    · rfl

/-- What represents a map before a run represents what the run makes of the map, if each id that is
registered is a new one. -/
theorem represents_through {run : List Traffic} {r : Relay} {a : Roster} (h : r.registry.Represents a)
    (hFresh : (run.filterMap registers?).Nodup)
    (hNew : ∀ id ∈ run.filterMap registers?, id ∉ a.members) :
    (through run r).registry.Represents (Roster.through run a) := by
  induction run generalizing r a with
  | nil => exact h
  | cons t rest ih =>
    have hMore : (t :: rest).filterMap registers? = t.registers?.toList ++ rest.filterMap registers? := by
      cases hRegisters : t.registers? <;> simp [hRegisters]
    rw [hMore, List.nodup_append] at hFresh
    rw [hMore] at hNew
    have hStep := h.perform t fun id hid => hNew id (List.mem_append_left _ (by simp [hid]))
    refine ih hStep hFresh.2.1 fun id hid => ?_
    refine Roster.notMem_step (hNew id (List.mem_append_right _ hid)) fun hSame => ?_
    exact hFresh.2.2 id (by simp [hSame]) id hid rfl

/-- The connection is registered, and not any more when this is done. -/
def Removes (t : Traffic) (r : Relay) (id : ConnectionId) : Prop :=
  r.registry.isRegistered id ∧ (t.perform r).2.registry.isRegistered id = false

/-- What a run has made of a registry that was new.  `capacity` is how many frames were asked for in a
queue. -/
structure Refines (start : Relay) (capacity : Nat) (run : List Traffic) : Prop where
  inhabited : ∀ entry ∈ (through run start).registry.clients, entry.2 ≠ []
  serials : ((through run start).registry.present.map (·.serial)).Nodup
  bounded : (through run start).registry.Everywhere (·.length ≤ max 1 capacity)
  /-- The registered connections are the members of the map, with their queues, and what is left to the
  readers of others is what the map says. -/
  represents : (through run start).registry.Represents (Roster.after capacity run)
  /-- Whatever is done next is answered as the map answers it. -/
  answers : ∀ t, (t.perform (through run start)).1 = ((Roster.after capacity run).step t).1
  connectionsOf : ∀ user, (through run start).registry.connectionsOf user =
    ((Roster.after capacity run).members.filter (·.user = user)).card
  onlineUsers : (through run start).registry.onlineUsers =
    ((Roster.after capacity run).members.image (·.user)).card
  /-- A registration adds a connection with an empty queue, if there can be queues. -/
  adds : ∀ id, id ∉ run.filterMap registers? → max 1 capacity ≤ Outbox.maxCapacity →
    ((register id).perform (through run start)).2.registry.outbox? id = some {}
  /-- A connection is removed when it is unregistered, which is answered with true, and when its queue
  refuses a frame of a fan-out, and only then. -/
  removes : ∀ (t : Traffic) id, t.Removes (through run start) id ↔
    id ∈ (Roster.after capacity run).members ∧
      (t = unregister id ∧ ((unregister id).perform (through run start)).1 = true ∨
        ∃ audience frame, t = deliver audience frame ∧
          ((Roster.after capacity run).queue id).Overflows (max 1 capacity) (audience.times id.user))
  /-- Each connection that was registered is in the map or was reported as removed, and once. -/
  accounts : ((through run start).registry.present ++ left (trail run start)).Perm
    (if max 1 capacity ≤ Outbox.maxCapacity then run.filterMap registers? else [])
  reported : reported run start = (left (trail run start)).length
  /-- The end of one registration leaves every other connection as it is. -/
  unregister : ∀ id other, other ≠ id →
    let after := ((unregister id).perform (through run start)).2.registry
    after.outbox? other = (through run start).registry.outbox? other ∧
      after.remnant? other = (through run start).registry.remnant? other
  /-- So do the ends of those that a fan-out finds too slow: the others are as the frame leaves them. -/
  shed : ∀ audience frame other, ¬ (deliver audience frame).Removes (through run start) other →
    let after := ((deliver audience frame).perform (through run start)).2.registry
    after.outbox? other = ((through run start).registry.outbox? other).map
        (·.fill (max 1 capacity) frame (audience.times other.user)) ∧
      after.remnant? other = (through run start).registry.remnant? other
  /-- A connection that was removed stays away.  Its queue gets nothing more, and the first to read it since
  is told that it has ended, whatever is left in it. -/
  ended : ∀ before (t : Traffic) later id, run = before ++ t :: later →
    t.Removes (through before start) id →
    (through run start).registry.isRegistered id = false ∧
    (∀ remnant, (through run start).registry.remnant? id = some remnant →
      ∃ first, (through (before ++ [t]) start).registry.remnant? id = some first ∧
        remnant.frames <:+ first.frames) ∧
    (.take id ∉ later → ((through run start).registry.take id).1 = .ended)

section

variable {start : Relay} {capacity : Nat} {run : List Traffic} {id : ConnectionId}

theorem capacity_through (run : List Traffic) (r : Relay) :
    (through run r).registry.capacity = r.registry.capacity := by
  induction run generalizing r with
  | nil => rfl
  | cons t rest ih => exact (ih _).trans (t.capacity_perform r)

/-- A run on a new registry represents what it makes of the empty map. -/
theorem represents_after (hStart : start.registry = .ofCapacity capacity)
    (hFresh : (run.filterMap registers?).Nodup) :
    (through run start).registry.Represents (Roster.after capacity run) :=
  represents_through (hStart ▸ .start capacity) hFresh (by simp)

/-- Nothing but a run's registrations makes members. -/
theorem mem_registered (h : id ∈ (Roster.after capacity run).members) : id ∈ run.filterMap registers? := by
  by_contra hNew
  exact (Roster.gone_through (by simp) hNew).1 h

theorem capacity_after (hStart : start.registry = .ofCapacity capacity)
    (h : (through run start).registry.Represents (Roster.after capacity run)) :
    (Roster.after capacity run).capacity = max 1 capacity := by
  rw [← h.capacity, capacity_through, hStart]
  rfl

/-- A registration removes nobody. -/
theorem not_removes_register {r : Relay} (h : r.registry.Distinct) (other : ConnectionId) :
    ¬ (register other).Removes r id := by
  rintro ⟨hThere, hGone⟩
  have hPresent := List.count_pos_iff.2 ((Registry.mem_present h).2 hThere)
  have hStill : id ∈ (r.registry.register other).2.present := by
    rw [← List.count_pos_iff, Registry.count_present_register h]
    omega
  rw [Registry.mem_present (h.register other)] at hStill
  exact Bool.false_ne_true (hGone.symm.trans hStill)

/-- What is removed from a registry is what is removed from the map that it represents. -/
theorem removes_iff {r : Relay} {a : Roster} (h : r.registry.Represents a) (t : Traffic) :
    t.Removes r id ↔ id ∈ a.members ∧ id ∉ (a.step t).2.members := by
  cases hRegisters : t.registers? with
  | none =>
    have hStep := h.perform t (by simp [hRegisters])
    rw [Removes, h.mem_members, hStep.mem_members, Bool.not_eq_true]
  | some other =>
    cases t with
    | register other =>
      refine iff_of_false (not_removes_register h.tidy.distinct other) fun ⟨hMember, hGone⟩ => ?_
      simpa using (Roster.removed_iff hMember).1 hGone
    | _ => contradiction

/-- Those whom a fan-out does not remove are left as the frame leaves them. -/
theorem deliver_others {r : Relay} {a : Roster} (h : r.registry.Represents a) {audience : Audience}
    {frame : Frame} (hStays : ¬ (deliver audience frame).Removes r id) :
    let after := ((deliver audience frame).perform r).2.registry
    after.outbox? id = (r.registry.outbox? id).map (·.fill a.capacity frame (audience.times id.user)) ∧
      after.remnant? id = r.registry.remnant? id := by
  have hStep := h.perform (deliver audience frame) (by simp [registers?])
  have hNotSlow : id ∉ a.slow audience := by
    intro hSlow
    have hMember := Finset.mem_of_mem_filter id hSlow
    refine hStays ((removes_iff h _).2 ⟨hMember, (Roster.removed_iff hMember).2 (.inr ?_)⟩)
    exact ⟨audience, frame, rfl, (Finset.mem_filter.1 hSlow).2⟩
  refine ⟨?_, ?_⟩
  · rw [hStep.outbox?, h.outbox?]
    by_cases hMember : id ∈ a.members <;>
      simp [Roster.step, Roster.deliver, Roster.remove, Roster.fill, hMember, hNotSlow]
  · rw [hStep.remnant?, h.remnant?]
    simp [Roster.step, Roster.deliver, Roster.remove, Roster.fill, hNotSlow]

/-- What is left of the queue of a connection that is removed gets nothing more, and whoever reads it first
is told that it has ended. -/
theorem ended_after (hStart : start.registry = .ofCapacity capacity) {before later : List Traffic}
    {t : Traffic} (hFresh : ((before ++ t :: later).filterMap registers?).Nodup)
    (hRemoves : t.Removes (through before start) id) :
    (through (before ++ t :: later) start).registry.isRegistered id = false ∧
    (∀ remnant, (through (before ++ t :: later) start).registry.remnant? id = some remnant →
      ∃ first, (through (before ++ [t]) start).registry.remnant? id = some first ∧
        remnant.frames <:+ first.frames) ∧
    (.take id ∉ later → ((through (before ++ t :: later) start).registry.take id).1 = .ended) := by
  have hSplit : before ++ t :: later = (before ++ [t]) ++ later := by simp
  rw [hSplit] at hFresh ⊢
  have hNow := represents_after hStart hFresh
  rw [List.filterMap_append, List.nodup_append] at hFresh
  have hThen := represents_after hStart hFresh.1
  have hFirst : (before.filterMap registers?).Nodup := by
    rw [List.filterMap_append] at hFresh
    exact (List.nodup_append.1 hFresh.1).1
  obtain ⟨hMember, hGone⟩ := (removes_iff (represents_after hStart hFirst) t).1 hRemoves
  have hAfter : (Roster.after capacity (before ++ [t])) = ((Roster.after capacity before).step t).2 :=
    Roster.after_append ..
  rw [← hAfter] at hGone
  have hNew : id ∉ later.filterMap registers? := fun hLater => by
    refine hFresh.2.2 id ?_ id hLater rfl
    rw [List.filterMap_append]
    exact List.mem_append_left _ (mem_registered hMember)
  obtain ⟨hAway, hLeft⟩ := Roster.gone_through hGone hNew
  rw [← Roster.after_append] at hAway hLeft
  refine ⟨?_, fun remnant hRemnant => ?_, fun hUnread => ?_⟩
  · rwa [hNow.mem_members, Bool.not_eq_true] at hAway
  · obtain ⟨first, hFirst, hSuffix, -⟩ := hLeft remnant (hNow.remnant? id ▸ hRemnant)
    exact ⟨first, (hThen.remnant? id).trans hFirst, hSuffix⟩
  · rw [(hNow.take id).1]
    refine Roster.take_of_not_told hAway fun remnant hRemnant => ?_
    obtain ⟨first, hFirst, -, hSame⟩ := hLeft remnant hRemnant
    rw [hSame hUnread]
    rw [hAfter] at hGone hFirst
    exact Roster.told_of_removed hMember hGone hFirst

end

end Traffic

/-- The registry refines a finite map of connections.  Whatever is done to a new registry, one thing after
another, if no two registrations are given one id, then it is the map of the connections that were
registered and not removed: it answers as the map does, counts what the map holds, reports each removal
once, and a removal concerns one connection, whose queue has ended then. -/
theorem Traffic.registry_refines {start : Relay} {capacity : Nat}
    (hStart : start.registry = .ofCapacity capacity) (run : List Traffic)
    (hFresh : ((run.filterMap Traffic.registers?).map (·.serial)).Nodup) : Refines start capacity run := by
  have hIds : (run.filterMap registers?).Nodup := hFresh.of_map
  have hRepresents := represents_after hStart hIds
  have hAfter := capacity_after hStart hRepresents
  have hNobody : start.registry.clients = [] := by rw [hStart]; rfl
  have hCapacity : start.registry.capacity = max 1 capacity := by rw [hStart]; rfl
  have hLedger : Ledger (through run start).registry (trail run start) :=
    ledger_through run (Ledger.of_nobody hNobody)
  have hJoined := joined_trail run start
  rw [hCapacity] at hJoined
  have hAccounts : ((through run start).registry.present ++ left (trail run start)).Perm
      (if max 1 capacity ≤ Outbox.maxCapacity then run.filterMap registers? else []) := by
    rw [← hJoined]
    refine hLedger.perm ?_
    rw [hJoined]
    split
    · exact hIds
    · exact List.nodup_nil
  constructor
  case inhabited => exact hRepresents.tidy.inhabited
  case serials =>
    have hSerials := (hAccounts.map (·.serial)).nodup_iff.2 (by split; exact hFresh; exact List.nodup_nil)
    rw [List.map_append] at hSerials
    exact (List.nodup_append.1 hSerials).1
  case bounded =>
    refine everywhere_through run ?_ hCapacity.le
    rw [hStart]
    exact .of_nil rfl rfl
  case represents => exact hRepresents
  case answers => exact hRepresents.answer
  case connectionsOf => exact hRepresents.connectionsOf
  case onlineUsers => exact hRepresents.onlineUsers
  case adds =>
    intro id hNew hRoom
    have hNone := hRepresents.outbox?_of_notMem fun hMember => hNew (mem_registered hMember)
    have hDone : ((through run start).registry.register id).1 = true := by
      rw [Registry.register, capacity_through, hCapacity, if_pos hRoom]
    exact Registry.outbox?_register hNone (Registry.isRegistered_register hDone)
  case removes =>
    intro t id
    rw [removes_iff hRepresents]
    refine and_congr_right fun hMember => ?_
    have hAnswer : ((unregister id).perform (through run start)).1 = true :=
      (Registry.unregister_fst ..).trans (hRepresents.mem_members.1 hMember)
    rw [Roster.removed_iff hMember, hAfter, and_iff_left hAnswer]
  case accounts => exact hAccounts
  case reported => exact reported_eq run start
  case unregister =>
    intro id other hOther
    refine ⟨Registry.outbox?_unregister_of_ne hOther _, (Registry.remnant?_unregister ..).trans ?_⟩
    exact if_neg fun hBoth => hOther hBoth.1
  case shed =>
    intro audience frame other hStays
    have hOthers := deliver_others hRepresents hStays
    rwa [hAfter] at hOthers
  case ended =>
    rintro before t later id rfl hRemoves
    exact ended_after hStart hIds hRemoves

/-- Queues of one frame, and a fan-out that lists a user twice.  The first copy fills the queue of one of the
user's two devices and the second is refused, so that it is removed; the other device, whose reading end had
gone, is removed when it is unregistered, and not a second time.  A connection of another user stays, and
gets what is offered to everyone later.  The first device is told at its next reading that its queue has
ended, gets the frame that was left at the one after, and then the end again. -/
theorem Traffic.registry_refines_two_devices :
    let desk : ConnectionId := ⟨"ann", .zero⟩
    let phone : ConnectionId := ⟨"ann", ⟨List.replicate 32 1, rfl⟩⟩
    let bob : ConnectionId := ⟨"bob", ⟨List.replicate 32 2, rfl⟩⟩
    let run : List Traffic :=
      [.register desk, .register phone, .register bob, .dropReader phone,
        .deliver (.users ["ann", "ann"]) "hi", .unregister phone, .unregister phone,
        .deliver .everyone "ho"]
    let start : Relay := .ofDatabase .fresh 0
    let r := (through run start).registry
    left (trail run start) = [desk, phone] ∧ reported run start = 2 ∧
      r.connectionsOf "ann" = 0 ∧ r.connectionsOf "bob" = 1 ∧ r.onlineUsers = 1 ∧
      r.outbox? bob = some { frames := ["ho"] } ∧
      (r.take desk).1 = .ended ∧ ((r.take desk).2.take desk).1 = .frame "hi" ∧
      (((r.take desk).2.take desk).2.take desk).1 = .ended ∧ r.remnant? phone = none ∧
      Refines start 0 run :=
  ⟨by decide, by decide, by decide, by decide, by decide, by decide, by decide, by decide, by decide,
    by decide, registry_refines rfl _ (by decide)⟩

end ChatRelay
