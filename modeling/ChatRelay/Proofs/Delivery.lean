import ChatRelay.Proofs.Run

/-! Live delivery is exact.  What a connection has been sent, taken from its queue or still in it, is one
list of messages: those of the posts made since its registration whose channel its user may see when they
are fanned out, in order and each once.  `Event.serves` says so of one event, as the change to a queue,
and `Relay.serves_after` of a run; a queue that is full loses nothing but its registration. -/

namespace ChatRelay

namespace Event

/-- The frames that an event takes from a connection's queue. -/
def yields (id : ConnectionId) : Event → Relay → List Frame
  | take other, r => if other = id then (r.registry.take id).1.frames else []
  | _, _ => []

/-- The message of a post that succeeds, if the user may see its channel when it is fanned out.  A fan-out
leaves the store as it is, so that the store after the post says who may. -/
def owes (user : String) : Event → Relay → List Message
  | post sender req fresh, r =>
    match (ChatRelay.post sender req fresh).runOn r with
    | (.ok m, r') => if r'.store.database.sees user m.channel then [m] else []
    | (.error _, _) => []
  | _, _ => []

end Event

namespace Relay

/-- The frames that wait in a connection's queue. -/
def queued (r : Relay) (id : ConnectionId) : List Frame :=
  ((r.registry.outbox? id).map (·.frames)).getD []

/-- The frames that a run takes from a connection's queue. -/
def taken (id : ConnectionId) : List Event → Relay → List Frame
  | [], _ => []
  | e :: rest, r => e.yields id r ++ taken id rest (e.apply r)

/-- The messages of a run that a user must be sent. -/
def owed (user : String) : List Event → Relay → List Message
  | [], _ => []
  | e :: rest, r => e.owes user r ++ owed user rest (e.apply r)

end Relay

variable {r : Relay} {id : ConnectionId} {o : Outbox}

/-! ### One event -/

/-- A queue after an event, as far as messages go: it has got `more` at its end and lost `out` at its
front. -/
def Served (r' : Relay) (id : ConnectionId) (o : Outbox) (out : List Frame) (more : List Message) :
    Prop :=
  ∃ o', r'.registry.outbox? id = some o' ∧ o'.readerGone = false ∧
    (out ++ o'.frames).filterMap Frame.message? = o.frames.filterMap Frame.message? ++ more

theorem Served.unchanged {r' : Relay} (h : r'.registry.outbox? id = some o)
    (hReader : o.readerGone = false) : Served r' id o [] [] :=
  ⟨o, h, hReader, by rw [List.nil_append, List.append_nil]⟩

theorem served_take (h : r.registry.outbox? id = some o) (hReader : o.readerGone = false) :
    Served ((Event.take id).apply r) id o ((Event.take id).yields id r) [] := by
  obtain ⟨-, hTake⟩ | ⟨text, rest, hFrames, hText, hRest⟩ := Registry.take_of_outbox? h
  · have hYields : (Event.take id).yields id r = [] := by
      rw [Event.yields, if_pos rfl, hTake]
      rfl
    have hApply : ((Event.take id).apply r).registry = r.registry := congrArg Prod.snd hTake
    rw [hYields]
    exact .unchanged (hApply ▸ h) hReader
  · have hYields : (Event.take id).yields id r = [text] := by
      rw [Event.yields, if_pos rfl, hText]
      rfl
    refine ⟨_, hRest, hReader, ?_⟩
    rw [hYields, hFrames, List.append_nil]
    rfl

theorem served_sendError (h : r.registry.outbox? id = some o) (hReader : o.readerGone = false)
    (code : ErrorCode) (channel : Option String) :
    Served ((Event.sendError id code channel).apply r) id o [] [] := by
  refine ⟨_, Registry.outbox?_sendTo h _, ?_, ?_⟩
  · split
    · exact hReader
    · exact hReader
  · rw [List.nil_append, List.append_nil]
    split
    · rw [Outbox.push, List.filterMap_append, List.filterMap_cons, Frame.message?_encode_error]
      exact List.append_nil _
    · rfl

/-- A fan-out sends a message to those who may see its channel, as far as they stay registered. -/
theorem served_spread (hSound : r.Sound) (h : r.registry.outbox? id = some o)
    (hReader : o.readerGone = false) {m : Message} (hStays : (r.spread m).registry.isRegistered id) :
    Served (r.spread m) id o [] (if r.store.database.sees id.user m.channel then [m] else []) := by
  have hRegistered : r.registry.isRegistered id := by rw [Registry.isRegistered, h]; rfl
  unfold Relay.spread at hStays ⊢
  rcases hAudience : r.store.database.audience? m.channel with _ | audience
  · have hHidden : r.store.database.sees id.user m.channel = false := by
      rw [Store.Database.audience?, Option.map_eq_none_iff] at hAudience
      rw [Store.Database.sees, hAudience]
      rfl
    rw [hHidden, if_neg Bool.false_ne_true]
    exact .unchanged h hReader
  rw [hAudience] at hStays
  have hListed := hSound.keyed.nodup_listed hSound.distinct hAudience
  refine ⟨_, Registry.outbox?_deliver hListed h hReader hStays, ?_, ?_⟩
  · split
    · exact hReader
    · exact hReader
  rw [List.nil_append]
  by_cases hSees : r.store.database.sees id.user m.channel
  · rw [if_pos ((mem_listed_iff_sees hAudience hRegistered).2 hSees), if_pos hSees, Outbox.push,
      List.filterMap_append, List.filterMap_cons, m.message?_frame]
    rfl
  · rw [if_neg fun hMem => hSees ((mem_listed_iff_sees hAudience hRegistered).1 hMem),
      if_neg hSees, List.append_nil]

theorem served_post (hSound : r.Sound) (h : r.registry.outbox? id = some o)
    (hReader : o.readerGone = false) {sender : String} {req : SendRequest} {fresh : Fresh}
    (hStays : ((Event.post sender req fresh).apply r).registry.isRegistered id) :
    Served ((Event.post sender req fresh).apply r) id o []
      ((Event.post sender req fresh).owes id.user r) := by
  have hSound' := hSound.apply (.post sender req fresh)
  have hApply : (Event.post sender req fresh).apply r = ((post sender req fresh).runOn r).2 := rfl
  rw [hApply] at hStays hSound' ⊢
  rw [Event.owes]
  rcases hPost : (post sender req fresh).runOn r with ⟨result, r'⟩
  rw [hPost] at hStays hSound'
  cases result with
  | error e => exact .unchanged (post_runOn_error hPost ▸ h) hReader
  | ok m =>
    obtain ⟨r₁, hRegistry, rfl⟩ := post_runOn_ok hPost
    have hSound₁ : r₁.Sound := ⟨r₁.store_spread m ▸ hSound'.keyed, hRegistry ▸ hSound.distinct⟩
    have hServed := served_spread hSound₁ (hRegistry ▸ h) hReader hStays
    rwa [← r₁.store_spread m] at hServed

/-- What one event does to the queue of a connection that stays registered. -/
theorem Event.serves {e : Event} (hSound : r.Sound) (hNew : e ≠ .register id)
    (hKept : e ≠ .dropReader id) (h : r.registry.outbox? id = some o) (hReader : o.readerGone = false)
    (hStays : (e.apply r).registry.isRegistered id) :
    Served (e.apply r) id o (e.yields id r) (e.owes id.user r) := by
  cases e with
  | register other =>
    have hOther : id ≠ other := fun hSame => hNew (hSame ▸ rfl)
    exact .unchanged ((Registry.outbox?_register_of_ne hOther _).trans h) hReader
  | unregister other =>
    by_cases hOther : id = other
    · subst hOther
      rw [Registry.isRegistered] at hStays
      refine absurd hStays ?_
      rw [Event.apply, Action.perform]
      rw [Registry.outbox?_unregister]
      exact Bool.false_ne_true
    · exact .unchanged ((Registry.outbox?_unregister_of_ne hOther _).trans h) hReader
  | take other =>
    by_cases hOther : id = other
    · subst hOther
      exact served_take h hReader
    · have hYields : (Event.take other).yields id r = [] := by
        rw [Event.yields, if_neg (Ne.symm hOther)]
      rw [hYields]
      exact .unchanged ((Registry.outbox?_take_of_ne hOther _).trans h) hReader
  | dropReader other =>
    have hOther : id ≠ other := fun hSame => hKept (hSame ▸ rfl)
    exact .unchanged ((Registry.outbox?_dropReader_of_ne hOther _).trans h) hReader
  | sendError other code channel =>
    by_cases hOther : id = other
    · subst hOther
      exact served_sendError h hReader code channel
    · exact .unchanged ((Registry.outbox?_sendTo_of_ne hOther _ _).trans h) hReader
  | post sender req fresh => exact served_post hSound h hReader hStays
  | ask s => exact .unchanged ((s.registry_runOn r).symm ▸ h) hReader
  | edit c => exact .unchanged h hReader

/-! ### Runs -/

/-- The connection that an event registers. -/
def Event.registered? : Event → Option ConnectionId
  | register id => some id
  | _ => none

theorem Action.outbox?_eq_none {action : Action} (hNew : action ≠ .register id)
    (h : r.registry.outbox? id = none) : (action.perform r).2.registry.outbox? id = none := by
  cases action with
  | call c => exact h
  | stamp wall => exact h
  | offer audience frame => exact Registry.outbox?_offer_eq_none h audience frame
  | sendTo other frame =>
    by_cases hOther : id = other
    · subst hOther
      rw [Action.perform, Registry.sendTo_of_outbox?_eq_none h]
      exact h
    · exact (Registry.outbox?_sendTo_of_ne hOther _ _).trans h
  | register other =>
    have hOther : id ≠ other := fun hSame => hNew (hSame ▸ rfl)
    exact (Registry.outbox?_register_of_ne hOther _).trans h
  | unregister other =>
    by_cases hOther : id = other
    · exact hOther ▸ Registry.outbox?_unregister _ _
    · exact (Registry.outbox?_unregister_of_ne hOther _).trans h
  | take other => exact Registry.outbox?_take_eq_none h other

theorem Event.outbox?_eq_none {e : Event} (hNew : e ≠ .register id)
    (h : r.registry.outbox? id = none) : (e.apply r).registry.outbox? id = none := by
  cases e with
  | register other =>
    exact Action.outbox?_eq_none (fun hSame => hNew (by injection hSame with hSame; rw [hSame])) h
  | unregister other => exact Action.outbox?_eq_none (by simp) h
  | take other => exact Action.outbox?_eq_none (by simp) h
  | dropReader other => exact Registry.outbox?_dropReader_eq_none h other
  | sendError other code channel =>
    have hSend : ∀ text, Action.sendTo other text ≠ .register id := by simp
    exact Action.outbox?_eq_none (hSend _) h
  | post sender req fresh =>
    refine (post_uses sender req fresh).runOn (P := fun r => r.registry.outbox? id = none)
      (fun action r₁ hAction hNone => ?_) h
    refine Action.outbox?_eq_none ?_ hNone
    rintro rfl
    obtain (hAction | hAction) | hAction | ⟨text, hAction⟩ := hAction
    · exact hAction.not_onRegistry trivial
    · exact Action.Browses.not_onRegistry (.inr hAction) trivial
    · exact hAction
    · exact hAction
  | ask s => exact (congrArg (·.outbox? id) (s.registry_runOn r)).trans h
  | edit c => exact h

namespace Relay

theorem outbox?_after_eq_none {events : List Event} (hNew : .register id ∉ events)
    (h : r.registry.outbox? id = none) : (r.after events).registry.outbox? id = none := by
  induction events generalizing r with
  | nil => exact h
  | cons e rest ih =>
    rw [List.mem_cons, not_or] at hNew
    exact ih hNew.2 (Event.outbox?_eq_none (Ne.symm hNew.1) h)

theorem isRegistered_of_after {events : List Event} (hNew : .register id ∉ events)
    (h : (r.after events).registry.isRegistered id) : r.registry.isRegistered id := by
  by_contra hGone
  rw [Registry.isRegistered, Option.not_isSome_iff_eq_none] at hGone
  rw [Registry.isRegistered, outbox?_after_eq_none hNew hGone] at h
  contradiction

theorem serves_after {events : List Event} (hSound : r.Sound) (hNew : .register id ∉ events)
    (hKept : .dropReader id ∉ events) (h : r.registry.outbox? id = some o)
    (hReader : o.readerGone = false) (hStays : (r.after events).registry.isRegistered id) :
    Served (r.after events) id o (taken id events r) (owed id.user events r) := by
  induction events generalizing r o with
  | nil => exact .unchanged h hReader
  | cons e rest ih =>
    rw [List.mem_cons, not_or] at hNew hKept
    have hStill := isRegistered_of_after hNew.2 hStays
    obtain ⟨o₁, h₁, hReader₁, hFirst⟩ :=
      Event.serves hSound (Ne.symm hNew.1) (Ne.symm hKept.1) h hReader hStill
    obtain ⟨o₂, h₂, hReader₂, hRest⟩ := ih (hSound.apply e) hNew.2 hKept.2 h₁ hReader₁ hStays
    refine ⟨o₂, h₂, hReader₂, ?_⟩
    rw [taken, owed, List.append_assoc, List.filterMap_append, hRest, ← List.append_assoc,
      ← List.filterMap_append, hFirst, List.append_assoc]

/-- Live delivery is exact.  In a run from a start with nobody connected, in which no two connections
are registered under one id, take a connection that is registered at the end and whose reading end was
never dropped.  Since its registration, the messages taken from its queue and those still in it are the
messages of the posts whose channel its user may see at their fan-out, in order and each once. -/
theorem delivery_exact {start : Relay} (hKeyed : start.store.database.Keyed)
    (hNobody : start.registry.clients = []) {events : List Event}
    (hIds : (events.filterMap Event.registered?).Nodup) {id : ConnectionId}
    (hKept : .dropReader id ∉ events) (hStays : (start.after events).registry.isRegistered id) :
    ∃ before later, events = before ++ .register id :: later ∧
      let live := start.after (before ++ [.register id])
      (taken id later live ++ (live.after later).queued id).filterMap Frame.message? =
        owed id.user later live := by
  have hSound : start.Sound := ⟨hKeyed, by rw [Registry.Distinct, hNobody]; exact List.nodup_nil⟩
  have hNone : start.registry.outbox? id = none := by
    rw [Registry.outbox?, Registry.clientsOf, hNobody]
    rfl
  have hMem : .register id ∈ events := by
    by_contra hNew
    rw [Registry.isRegistered, outbox?_after_eq_none hNew hNone] at hStays
    contradiction
  obtain ⟨before, later, rfl⟩ := List.append_of_mem hMem
  refine ⟨before, later, rfl, ?_⟩
  -- The id is registered here and nowhere else.
  have hFirst : (Event.register id :: later).filterMap Event.registered? =
      id :: later.filterMap Event.registered? := rfl
  rw [List.filterMap_append, hFirst, List.nodup_middle, List.nodup_cons, ← List.filterMap_append] at hIds
  have hElsewhere : .register id ∉ before ++ later := fun h =>
    hIds.1 (List.mem_filterMap.2 ⟨_, h, rfl⟩)
  rw [List.mem_append, not_or] at hElsewhere hKept
  have hLive : start.after (before ++ [.register id]) =
      (Event.register id).apply (start.after before) := after_append ..
  rw [after_append, after_cons, ← hLive] at hStays
  have hEmpty : (start.after (before ++ [.register id])).registry.outbox? id = some {} := by
    have hBefore := outbox?_after_eq_none hElsewhere.1 hNone
    have hRegistered := isRegistered_of_after hElsewhere.2 hStays
    rw [hLive] at hRegistered ⊢
    exact Registry.outbox?_register hBefore hRegistered
  have hKeptLater : .dropReader id ∉ later := fun h => hKept.2 (List.mem_cons_of_mem _ h)
  obtain ⟨o, hEnd, -, hServed⟩ :=
    serves_after (hSound.after _) hElsewhere.2 hKeptLater hEmpty rfl hStays
  dsimp only
  rw [queued, hEnd]
  exact hServed

/-- A run in which one post goes to members alone and the next to everyone. -/
theorem delivery_exact_two_posts :
    ∃ before later : List Event,
      [.edit (.createChannel "staff" "Staff" "private"), .edit (.addMember "staff" "bob"),
        .register ⟨"ann", .zero⟩, .post "bob" ⟨"staff", [1], [], [], .text⟩ ⟨.zero, 5⟩,
        .post "bob" ⟨"general", [2], [], [], .text⟩ ⟨⟨List.replicate 32 1, rfl⟩, 6⟩,
        .take ⟨"ann", .zero⟩] = before ++ .register ⟨"ann", .zero⟩ :: later ∧
      let live := (ofDatabase .fresh 1).after (before ++ [.register ⟨"ann", .zero⟩])
      (taken ⟨"ann", .zero⟩ later live ++ (live.after later).queued ⟨"ann", .zero⟩).filterMap
        Frame.message? = owed "ann" later live :=
  delivery_exact keyed_fresh rfl (by decide) (by simp) (by decide)

end Relay

end ChatRelay
