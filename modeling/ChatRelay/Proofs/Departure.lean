import ChatRelay.Proofs.Apart
import ChatRelay.Proofs.Delivery
import ChatRelay.Proofs.Revocation

/-! What becomes of a post while connections come and go.  A post that is under way makes no difference
between two relays that are alike apart from one connection: whatever else happens, and whatever is done to
that connection in either of them, it has the same result and leaves relays that are alike again.  The two
may differ for a while, when a fan-out ends the slow connections of both in a different order. -/

namespace ChatRelay

open Registry (Audience)

variable {α β : Type} {id : ConnectionId} {X S : List ConnectionId} {r r' : Relay}

/-! ### Alike relays -/

/-- Two relays that differ in some connections at most. -/
structure Relay.Alike (X : List ConnectionId) (r r' : Relay) : Prop where
  store : r.store = r'.store
  lastStamp : r.lastStamp = r'.lastStamp
  registry : r.registry.Alike X r'.registry

namespace Relay.Alike

theorem refl (h : r.registry.Distinct) : r.Alike X r :=
  ⟨rfl, rfl, .refl h⟩

theorem symm (h : r.Alike X r') : r'.Alike X r :=
  ⟨h.store.symm, h.lastStamp.symm, h.registry.symm⟩

theorem trans {r'' : Relay} (h : r.Alike X r') (h' : r'.Alike X r'') : r.Alike X r'' :=
  ⟨h.store.trans h'.store, h.lastStamp.trans h'.lastStamp, h.registry.trans h'.registry⟩

theorem mono {Y : List ConnectionId} (h : r.Alike X r') (hX : X ⊆ Y) : r.Alike Y r' :=
  ⟨h.store, h.lastStamp, h.registry.mono hX⟩

theorem perform (h : r.Alike X r') (action : Action) :
    Relay.Alike X (action.perform r).2 (action.perform r').2 := by
  obtain ⟨hStore, hStamp, hRegistry⟩ := h
  cases action with
  | call c => exact ⟨by simp [Action.perform, hStore], hStamp, hRegistry⟩
  | stamp wall => exact ⟨hStore, by simp [Action.perform, hStamp], hRegistry⟩
  | offer audience frame => exact ⟨hStore, hStamp, (hRegistry.offer audience frame).alike⟩
  | sendTo other frame => exact ⟨hStore, hStamp, hRegistry.sendTo other frame⟩
  | register other => exact ⟨hStore, hStamp, hRegistry.register other⟩
  | unregister other => exact ⟨hStore, hStamp, hRegistry.unregister other⟩
  | take other => exact ⟨hStore, hStamp, hRegistry.take other⟩

theorem dropReader (h : r.Alike X r') (other : ConnectionId) :
    Relay.Alike X { r with registry := r.registry.dropReader other }
      { r' with registry := r'.registry.dropReader other } :=
  ⟨h.store, h.lastStamp, h.registry.dropReader other⟩

/-- An action that is not one on the registry finds the same in both. -/
theorem answer_eq (h : r.Alike X r') {action : Action} (hAction : ¬ action.OnRegistry) :
    (action.perform r).1 = (action.perform r').1 := by
  cases action with
  | call c => exact congrArg (fun store => (Store.call store c).1) h.store
  | stamp wall => exact congrArg (max · wall) h.lastStamp
  | _ => exact absurd trivial hAction

end Relay.Alike

/-! ### Activities that end in a fan-out -/

/-- What is left of a fan-out when its frame was offered. -/
def shedding (slow : List ConnectionId) (a : α) : Activity α := do
  let _ ← shedAll slow
  return a

theorem shedding_cons (first : ConnectionId) (rest : List ConnectionId) (a : α) :
    shedding (first :: rest) a = .act (.unregister first) fun _ => shedding rest a :=
  congrArg (Activity.act (.unregister first)) (funext fun _ => Activity.bind_assoc (shedAll rest) _ _)

theorem shedding_eq_done {slow : List ConnectionId} {a b : α} (h : shedding slow a = .done b) :
    slow = [] ∧ a = b := by
  cases slow with
  | nil => exact ⟨rfl, Activity.done.inj h⟩
  | cons first rest =>
    rw [shedding_cons] at h
    contradiction

namespace Activity

/-- The registry is not touched until a frame is offered, after which the slow connections are ended and
nothing else is done; and what comes of it does not depend on them. -/
inductive EndsInFanOut : Activity α → Prop
  | act {action : Action} {next : action.Answer → Activity α} (h : ¬ action.OnRegistry)
      (hNext : ∀ answer, (next answer).EndsInFanOut) : EndsInFanOut (.act action next)
  | offer (audience : Audience) (frame : Frame) (a : α) :
      EndsInFanOut (.act (.offer audience frame) fun report => shedding report.slow a)
  | shedding {t : Activity α} (slow : List ConnectionId) (a : α) (h : t = shedding slow a) : EndsInFanOut t

theorem EndsInFanOut.done (a : α) : (Activity.done a).EndsInFanOut :=
  .shedding [] a rfl

theorem EndsInFanOut.after {ok : Action → Prop} {ends : β → Prop} {t : Activity β}
    {f : β → Activity α} (h : t.Always ok ends)
    (hOk : ∀ action, ok action → ¬ action.OnRegistry) (hNext : ∀ b, (f b).EndsInFanOut) :
    (t >>= f).EndsInFanOut := by
  induction t with
  | done b => exact hNext b
  | act action next ih => exact .act (hOk action h.1) fun answer => ih answer (h.2 answer)

theorem EndsInFanOut.next {action : Action} {next : action.Answer → Activity α}
    (h : (Activity.act action next).EndsInFanOut) (answer : action.Answer) :
    (next answer).EndsInFanOut := by
  cases h with
  | act hAction hNext => exact hNext answer
  | offer audience frame a => exact .shedding answer.slow a rfl
  | shedding slow a hSlow =>
    cases slow with
    | nil => exact absurd hSlow.symm (fun hDone => nomatch hDone)
    | cons first rest =>
      rw [shedding_cons] at hSlow
      cases hSlow
      exact .shedding rest a rfl

end Activity

open ChatRelay.Activity (EndsInFanOut)

theorem deliver_endsInFanOut (audience : Audience) (frame : Frame) (a : α) :
    (deliver audience frame >>= fun _ => pure a).EndsInFanOut := by
  unfold deliver
  simp only [bind_assoc, pure_bind]
  exact .offer audience frame a

theorem Operation.endsInFanOut_bind {ok : Action → Prop} {op : Operation β} {f : β → Operation α}
    (h : op.Uses ok) (hOk : ∀ action, ok action → ¬ action.OnRegistry)
    (hNext : ∀ b, (f b).run.EndsInFanOut) : (op >>= f).run.EndsInFanOut := by
  rw [ExceptT.run_bind]
  refine .after h hOk fun result => ?_
  cases result with
  | ok b => exact hNext b
  | error e => exact .done _

theorem Posting.endsInFanOut (k : Posting) : k.activity.EndsInFanOut := by
  refine Operation.endsInFanOut_bind (resolve_uses k.sender k.req.destination)
    (fun _ h => h.not_onRegistry) fun channel => ?_
  refine Operation.endsInFanOut_bind (authorize_uses k.sender channel)
    (fun _ h => h.not_onRegistry) fun kind => ?_
  refine Operation.endsInFanOut_bind (append_uses k.sender channel k.req k.fresh)
    (fun _ h => h.not_onRegistry) fun m => ?_
  unfold Operation.attempt broadcast
  rw [ExceptT.run_bind_lift, ExceptT.run_bind, bind_assoc]
  refine .after (audienceOf_looks m.channel) (fun _ h => h.1.not_onRegistry) fun result => ?_
  cases result with
  | ok audience =>
    have hParts : (ExceptT.lift (deliver audience m.frame) : Operation Delivery).run >>=
        (fun _ => (pure m : Operation Message).run) =
          deliver audience m.frame >>= fun _ => pure (Except.ok m) := by
      simp
    exact hParts ▸ deliver_endsInFanOut audience m.frame (Except.ok m)
  | error e => exact .done _

/-! ### What happens meanwhile -/

/-- One thing that happens while an activity is under way. -/
inductive Slot where
  /-- The activity performs its next action. -/
  | goesOn
  /-- The activity finds that its next action, a call on the store, fails. -/
  | fails (cause : Store.Error)
  /-- Somebody else performs an action. -/
  | others (action : Action)
  /-- The reading end of a queue is dropped. -/
  | dropsReader (id : ConnectionId)

namespace Slot

/-- What is left of the activity, and the relay. -/
def turn : Slot → Activity α × Relay → Activity α × Relay
  | goesOn, (.act action next, r) => (next (action.perform r).1, (action.perform r).2)
  | fails cause, (.act (.call _) next, r) => (next (.error cause), r)
  | others action, (t, r) => (t, (action.perform r).2)
  | dropsReader id, (t, r) => (t, { r with registry := r.registry.dropReader id })
  | _, s => s

/-- What is done to one connection and to no other. -/
def touches (id : ConnectionId) : Slot → Bool
  | others (.unregister other) | others (.take other) | others (.sendTo other _) | dropsReader other =>
    other = id
  | _ => false

/-- The connection that somebody else registers. -/
def registers? : Slot → Option ConnectionId
  | others (.register id) => some id
  | _ => none

theorem registers?_of_touches {slot : Slot} (h : slot.touches id) : slot.registers? = none := by
  unfold touches at h
  split at h <;> first | rfl | contradiction

theorem registered_filter (id : ConnectionId) (slots : List Slot) :
    (slots.filter (! ·.touches id)).filterMap (·.registers?) = slots.filterMap (·.registers?) := by
  rw [List.filterMap_filter]
  refine List.filterMap_congr fun slot _ => ?_
  by_cases hTouches : slot.touches id
  · simp [hTouches, registers?_of_touches hTouches]
  · simp [hTouches]

theorem turn_of_touches (slot : Slot) (h : slot.touches id) (s : Activity α × Relay) :
    (slot.turn s).1 = s.1 := by
  unfold touches at h
  split at h <;> first | rfl | contradiction

theorem outbox?_turn_eq_none (slot : Slot) (h : slot.touches id) {s : Activity α × Relay}
    {x : ConnectionId} (hNone : s.2.registry.outbox? x = none) :
    (slot.turn s).2.registry.outbox? x = none := by
  unfold touches at h
  split at h
  · exact Action.outbox?_eq_none (by simp) hNone
  · exact Action.outbox?_eq_none (by simp) hNone
  · exact Action.outbox?_eq_none (by simp) hNone
  · exact Registry.outbox?_dropReader_eq_none hNone _
  · contradiction

/-- What is done to one connection leaves a relay that is alike apart from it. -/
theorem alike_turn (slot : Slot) (h : slot.touches id) (hX : id ∈ X) {s : Activity α × Relay}
    (hDistinct : s.2.registry.Distinct) : (slot.turn s).2.Alike X s.2 := by
  unfold touches at h
  split at h
  · obtain rfl := of_decide_eq_true h
    exact ⟨rfl, rfl, .unregister_left hDistinct hX⟩
  · obtain rfl := of_decide_eq_true h
    exact ⟨rfl, rfl, .take_left hDistinct hX⟩
  · obtain rfl := of_decide_eq_true h
    exact ⟨rfl, rfl, .sendTo_left hDistinct hX _⟩
  · obtain rfl := of_decide_eq_true h
    exact ⟨rfl, rfl, .dropReader_left hDistinct hX⟩
  · contradiction

theorem turn_goesOn_cons (first : ConnectionId) (rest : List ConnectionId) (a : α) (r : Relay) :
    goesOn.turn (shedding (first :: rest) a, r) =
      (shedding rest a, ((Action.unregister first).perform r).2) := by
  rw [shedding_cons]
  rfl

theorem turn_fails (cause : Store.Error) (slow : List ConnectionId) (a : α) (r : Relay) :
    (fails cause).turn (shedding slow a, r) = (shedding slow a, r) := by
  cases slow with
  | nil => rfl
  | cons first rest =>
    rw [shedding_cons]
    rfl

end Slot

open Slot (turn_goesOn_cons turn_fails)

/-- What an activity returns, and the relay after it, when things happen before it has gone to its end. -/
def Activity.runAmid (slots : List Slot) (t : Activity α) (r : Relay) : α × Relay :=
  let (rest, r) := slots.foldl (fun s slot => slot.turn s) (t, r)
  rest.run r

/-- Whatever happens, an activity is at its end when it has gone on often enough. -/
theorem Activity.exists_turns (t : Activity α) (r : Relay) :
    ∃ n, ∀ m ≥ n, Slot.goesOn.turn^[m] (t, r) = (.done (t.run r).1, (t.run r).2) := by
  induction t generalizing r with
  | done a => exact ⟨0, fun m _ => Function.iterate_fixed rfl m⟩
  | act action next ih =>
    obtain ⟨n, hn⟩ := ih (action.perform r).1 (action.perform r).2
    refine ⟨n + 1, fun m hm => ?_⟩
    obtain ⟨m, rfl⟩ := Nat.exists_eq_add_of_le' hm
    rw [← Nat.add_assoc, Function.iterate_succ_apply]
    exact hn (m + n) (Nat.le_add_left n m)

/-! ### Two runs side by side -/

/-- A fan-out, part of the way: of the connections `S`, all but `slow` have been ended. -/
structure Midway (id : ConnectionId) (S slow : List ConnectionId) (r : Relay) : Prop where
  listed : slow ⊆ id :: S
  ended : ∀ x ∈ S, x ∈ slow ∨ r.registry.outbox? x = none

/-- The same activity on two relays that are alike apart from `id`.  `new` are connections that are still
to be registered.  A fan-out finds the same of the other connections slow in both; from then on the relays
differ in those, too, until all of them have been ended. -/
inductive Paired (id : ConnectionId) (new : List ConnectionId) (s s' : Activity α × Relay) : Prop
  | same (hRest : s.1 = s'.1) (hEnds : s.1.EndsInFanOut) (hAlike : s.2.Alike [id] s'.2)
      (hNew : ∀ x ∈ new, x ≠ id → s.2.registry.outbox? x = none)
  | midway (S slow slow' : List ConnectionId) (a : α) (hRest : s.1 = shedding slow a)
      (hRest' : s'.1 = shedding slow' a) (hAlike : s.2.Alike (id :: S) s'.2)
      (hMidway : Midway id S slow s.2) (hMidway' : Midway id S slow' s'.2) (hNew : ∀ x ∈ S, x ∉ new)

namespace Midway

variable {slow : List ConnectionId}

theorem of_registry {r' : Relay} (h : Midway id S slow r)
    (hNone : ∀ x ∈ S, r.registry.outbox? x = none → r'.registry.outbox? x = none) : Midway id S slow r' :=
  ⟨h.listed, fun x hx => (h.ended x hx).imp_right (hNone x hx)⟩

theorem perform (h : Midway id S slow r) {action : Action} (hNew : ∀ x ∈ S, action ≠ .register x) :
    Midway id S slow (action.perform r).2 :=
  h.of_registry fun x hx => Action.outbox?_eq_none (hNew x hx)

theorem dropReader (h : Midway id S slow r) (other : ConnectionId) :
    Midway id S slow { r with registry := r.registry.dropReader other } :=
  h.of_registry fun _ _ hNone => Registry.outbox?_dropReader_eq_none hNone other

theorem tail {first : ConnectionId} (h : Midway id S (first :: slow) r) :
    Midway id S slow ((Action.unregister first).perform r).2 := by
  refine ⟨fun x hx => h.listed (List.mem_cons_of_mem _ hx), fun x hx => ?_⟩
  rcases h.ended x hx with hSlow | hNone
  · rcases List.mem_cons.1 hSlow with rfl | hSlow
    · exact .inr (Registry.outbox?_unregister ..)
    · exact .inl hSlow
  · exact .inr (Action.outbox?_eq_none (by simp) hNone)

/-- When the fan-out goes on in one of the relays, they stay alike apart from the slow connections. -/
theorem exists_goesOn (h : Midway id S slow r) (a : α) (hAlike : r.Alike (id :: S) r') :
    ∃ rest r₁, Slot.goesOn.turn (shedding slow a, r) = (shedding rest a, r₁) ∧
      r₁.Alike (id :: S) r' ∧ Midway id S rest r₁ := by
  cases slow with
  | nil => exact ⟨[], r, rfl, hAlike, h⟩
  | cons first rest =>
    have hLeft : Relay.Alike (id :: S) ((Action.unregister first).perform r).2 r :=
      ⟨rfl, rfl, .unregister_left hAlike.registry.distinct (h.listed List.mem_cons_self)⟩
    exact ⟨rest, _, turn_goesOn_cons .., hLeft.trans hAlike, h.tail⟩

end Midway

namespace Paired

variable {new : List ConnectionId} {s s' : Activity α × Relay}

/-- A fan-out finds the same of the other connections slow. -/
theorem offer (audience : Audience) (frame : Frame) (a : α) (hAlike : r.Alike [id] r')
    (hNew : ∀ x ∈ new, x ≠ id → r.registry.outbox? x = none) :
    Paired id new
      (shedding (r.registry.offer audience frame).1.slow a, ((Action.offer audience frame).perform r).2)
      (shedding (r'.registry.offer audience frame).1.slow a, ((Action.offer audience frame).perform r').2) := by
  have hOffers := hAlike.registry.offer audience frame
  have hSlow : ∀ x, x ≠ id →
      (x ∈ (r.registry.offer audience frame).1.slow ↔ x ∈ (r'.registry.offer audience frame).1.slow) :=
    fun x hx => hOffers.slow x (by simpa using hx)
  refine .midway ((r.registry.offer audience frame).1.slow.filter (· ≠ id)) _ _ a rfl rfl
    ((hAlike.perform (.offer audience frame)).mono (by simp)) ⟨fun x hx => ?_, fun x hx => ?_⟩
    ⟨fun x hx => ?_, fun x hx => ?_⟩ fun x hx hFuture => ?_
  · by_cases hSame : x = id <;> simp [hSame, hx]
  · exact .inl (List.mem_of_mem_filter hx)
  · by_cases hSame : x = id
    · simp [hSame]
    · simp [hSame, (hSlow x hSame).2 hx]
  · obtain ⟨hMem, hOther⟩ := List.mem_filter.1 hx
    exact .inl ((hSlow x (by simpa using hOther)).1 hMem)
  · obtain ⟨hMem, hOther⟩ := List.mem_filter.1 hx
    obtain hNone | hSome := Registry.isSome_outbox?_of_mem_slow hMem
    · simp at hNone
    · have hGone := hNew x hFuture (by simpa using hOther)
      rw [hGone] at hSome
      contradiction

theorem goesOn (h : Paired id new s s') : Paired id new (Slot.goesOn.turn s) (Slot.goesOn.turn s') := by
  obtain ⟨t, r⟩ := s
  obtain ⟨t', r'⟩ := s'
  cases h with
  | same hRest hEnds hAlike hNew =>
    obtain rfl : t = t' := hRest
    cases hEnds with
    | act hAction hNext =>
      rename_i action next
      refine .same ?_ (hNext _) (hAlike.perform action) fun x hx hOther => ?_
      · exact congrArg next (hAlike.answer_eq hAction)
      · exact (congrArg (·.outbox? x) (Action.registry_perform hAction r)).trans (hNew x hx hOther)
    | offer audience frame a => exact offer audience frame a hAlike hNew
    | shedding slow a hSlow =>
      subst hSlow
      cases slow with
      | nil => exact .same rfl (.shedding [] a rfl) hAlike hNew
      | cons first rest =>
        rw [turn_goesOn_cons, turn_goesOn_cons]
        refine .same rfl (.shedding rest a rfl) (hAlike.perform (.unregister first)) fun x hx hOther => ?_
        exact Action.outbox?_eq_none (by simp) (hNew x hx hOther)
  | midway S slow slow' a hRest hRest' hAlike hMidway hMidway' hNew =>
    obtain rfl : t = shedding slow a := hRest
    obtain rfl : t' = shedding slow' a := hRest'
    obtain ⟨rest, r₁, hTurn, hAlike₁, hMidway₁⟩ := hMidway.exists_goesOn a hAlike
    obtain ⟨rest', r₂, hTurn', hAlike₂, hMidway₂⟩ := hMidway'.exists_goesOn a hAlike₁.symm
    rw [hTurn, hTurn']
    exact .midway S rest rest' a rfl rfl hAlike₂.symm hMidway₁ hMidway₂ hNew

theorem fails (h : Paired id new s s') (cause : Store.Error) :
    Paired id new ((Slot.fails cause).turn s) ((Slot.fails cause).turn s') := by
  obtain ⟨t, r⟩ := s
  obtain ⟨t', r'⟩ := s'
  cases h with
  | same hRest hEnds hAlike hNew =>
    obtain rfl : t = t' := hRest
    cases hEnds with
    | act hAction hNext =>
      rename_i action next
      cases action with
      | call c => exact .same rfl (hNext _) hAlike hNew
      | stamp wall => exact .same rfl (.act hAction hNext) hAlike hNew
      | _ => exact absurd trivial hAction
    | offer audience frame a => exact .same rfl (.offer audience frame a) hAlike hNew
    | shedding slow a hSlow =>
      subst hSlow
      rw [turn_fails, turn_fails]
      exact .same rfl (.shedding slow a rfl) hAlike hNew
  | midway S slow slow' a hRest hRest' hAlike hMidway hMidway' hNew =>
    obtain rfl : t = shedding slow a := hRest
    obtain rfl : t' = shedding slow' a := hRest'
    rw [turn_fails, turn_fails]
    exact .midway S slow slow' a rfl rfl hAlike hMidway hMidway' hNew

theorem others {action : Action}
    (h : Paired id ((Slot.others action).registers?.toList ++ new) s s')
    (hOnce : ∀ x, (Slot.others action).registers? = some x → x ∉ new) :
    Paired id new ((Slot.others action).turn s) ((Slot.others action).turn s') := by
  have hRegisters : ∀ x, action = .register x → (Slot.others action).registers? = some x := by
    rintro x rfl
    rfl
  cases h with
  | same hRest hEnds hAlike hNew =>
    refine .same hRest hEnds (hAlike.perform action) fun x hx hOther => ?_
    refine Action.outbox?_eq_none (fun hAction => hOnce x (hRegisters x hAction) hx) ?_
    exact hNew x (List.mem_append_right _ hx) hOther
  | midway S slow slow' a hRest hRest' hAlike hMidway hMidway' hNew =>
    have hAction : ∀ x ∈ S, action ≠ .register x := fun x hx hAction =>
      hNew x hx (List.mem_append_left _ (by simp [hRegisters x hAction]))
    exact .midway S slow slow' a hRest hRest' (hAlike.perform action) (hMidway.perform hAction)
      (hMidway'.perform hAction) fun x hx hFuture => hNew x hx (List.mem_append_right _ hFuture)

theorem dropsReader (h : Paired id new s s') (other : ConnectionId) :
    Paired id new ((Slot.dropsReader other).turn s) ((Slot.dropsReader other).turn s') := by
  cases h with
  | same hRest hEnds hAlike hNew =>
    exact .same hRest hEnds (hAlike.dropReader other) fun x hx hOther =>
      Registry.outbox?_dropReader_eq_none (hNew x hx hOther) other
  | midway S slow slow' a hRest hRest' hAlike hMidway hMidway' hNew =>
    exact .midway S slow slow' a hRest hRest' (hAlike.dropReader other) (hMidway.dropReader other)
      (hMidway'.dropReader other) hNew

theorem turn {slot : Slot} (h : Paired id (slot.registers?.toList ++ new) s s')
    (hOnce : ∀ x, slot.registers? = some x → x ∉ new) : Paired id new (slot.turn s) (slot.turn s') := by
  cases slot with
  | goesOn => exact h.goesOn
  | fails cause => exact h.fails cause
  | others action => exact h.others hOnce
  | dropsReader other => exact h.dropsReader other

/-- What is done to `id` in one of the runs makes no difference. -/
theorem touch (h : Paired id new s s') {slot : Slot} (hTouches : slot.touches id) :
    Paired id new (slot.turn s) s' := by
  have hSame := slot.turn_of_touches hTouches s
  have hNone : ∀ x, s.2.registry.outbox? x = none → (slot.turn s).2.registry.outbox? x = none :=
    fun x hx => slot.outbox?_turn_eq_none hTouches hx
  cases h with
  | same hRest hEnds hAlike hNew =>
    have hLeft := slot.alike_turn hTouches (List.mem_singleton_self id) hAlike.registry.distinct
    exact .same (hSame.trans hRest) (hSame ▸ hEnds) (hLeft.trans hAlike) fun x hx hOther =>
      hNone x (hNew x hx hOther)
  | midway S slow slow' a hRest hRest' hAlike hMidway hMidway' hNew =>
    have hLeft := slot.alike_turn (X := id :: S) hTouches List.mem_cons_self hAlike.registry.distinct
    exact .midway S slow slow' a (hSame.trans hRest) hRest' (hLeft.trans hAlike)
      (hMidway.of_registry fun x _ => hNone x) hMidway' hNew

theorem of_done {a a' : α} (h : Paired id new (.done a, r) (.done a', r')) : a = a' ∧ r.Alike [id] r' := by
  cases h with
  | same hRest hEnds hAlike hNew => exact ⟨Activity.done.inj hRest, hAlike⟩
  | midway S slow slow' b hRest hRest' hAlike hMidway hMidway' hNew =>
    obtain ⟨rfl, rfl⟩ := shedding_eq_done hRest.symm
    obtain ⟨rfl, rfl⟩ := shedding_eq_done hRest'.symm
    refine ⟨rfl, hAlike.store, hAlike.lastStamp, hAlike.registry.narrow fun x hx => ?_⟩
    exact ⟨(hMidway.ended x hx).resolve_left List.not_mem_nil,
      (hMidway'.ended x hx).resolve_left List.not_mem_nil⟩

/-- When both have gone to their ends, they have returned the same. -/
theorem run (h : Paired id new s s') :
    (s.1.run s.2).1 = (s'.1.run s'.2).1 ∧ Relay.Alike [id] (s.1.run s.2).2 (s'.1.run s'.2).2 := by
  obtain ⟨n, hn⟩ := s.1.exists_turns s.2
  obtain ⟨n', hn'⟩ := s'.1.exists_turns s'.2
  have hTurns : ∀ m, Paired id new (Slot.goesOn.turn^[m] s) (Slot.goesOn.turn^[m] s') := by
    intro m
    induction m with
    | zero => exact h
    | succ m ih =>
      rw [Function.iterate_succ_apply', Function.iterate_succ_apply']
      exact ih.goesOn
  have hBoth := hTurns (max n n')
  rw [show s = (s.1, s.2) from rfl, show s' = (s'.1, s'.2) from rfl, hn _ (Nat.le_max_left ..),
    hn' _ (Nat.le_max_right ..)] at hBoth
  exact hBoth.of_done

/-- Whatever happens, it makes no difference to leave out what is done to `id`. -/
theorem turns {slots : List Slot} (h : Paired id (slots.filterMap (·.registers?)) s s')
    (hOnce : (slots.filterMap (·.registers?)).Nodup) :
    Paired id [] (slots.foldl (fun s slot => slot.turn s) s)
      ((slots.filter (! ·.touches id)).foldl (fun s slot => slot.turn s) s') := by
  induction slots generalizing s s' with
  | nil => exact h
  | cons slot rest ih =>
    rw [List.filterMap_cons] at h hOnce
    by_cases hTouches : slot.touches id
    · have hNone := slot.registers?_of_touches hTouches
      rw [hNone] at h hOnce
      rw [List.filter_cons_of_neg (by simp [hTouches])]
      exact ih (h.touch hTouches) hOnce
    · rw [List.filter_cons_of_pos (by simp [hTouches])]
      have hHere : Paired id (slot.registers?.toList ++ rest.filterMap (·.registers?)) s s' := by
        cases hRegisters : slot.registers? <;> simpa [hRegisters] using h
      cases hRegisters : slot.registers? with
      | none => exact ih (hHere.turn (by simp [hRegisters])) (by simpa [hRegisters] using hOnce)
      | some x =>
        rw [hRegisters] at hOnce
        obtain ⟨hNot, hRest⟩ := List.nodup_cons.1 hOnce
        refine ih (hHere.turn fun y hy => ?_) hRest
        obtain rfl : x = y := Option.some.inj (hRegisters.symm.trans hy)
        exact hNot

end Paired

/-- An activity that ends in a fan-out makes no difference between relays that are alike apart from `id`,
whatever else happens, and whatever is done to `id` in either of them. -/
theorem Activity.EndsInFanOut.runAmid {t : Activity α} (h : t.EndsInFanOut) (hAlike : r.Alike [id] r')
    {slots slots' : List Slot} (hSlots : slots.filter (! ·.touches id) = slots'.filter (! ·.touches id))
    (hOnce : (slots.filterMap (·.registers?)).Nodup)
    (hNew : ∀ x ∈ slots.filterMap (·.registers?), r.registry.isRegistered x = false) :
    (t.runAmid slots r).1 = (t.runAmid slots' r').1 ∧
      Relay.Alike [id] (t.runAmid slots r).2 (t.runAmid slots' r').2 := by
  have hRegisters : slots.filterMap (·.registers?) = slots'.filterMap (·.registers?) := by
    rw [← Slot.registered_filter id slots, ← Slot.registered_filter id slots', hSlots]
  have hNone : ∀ x ∈ slots.filterMap (·.registers?), r.registry.outbox? x = none := fun x hx => by
    simpa [Registry.isRegistered] using hNew x hx
  have hNone' : ∀ x ∈ slots'.filterMap (·.registers?), x ≠ id → r'.registry.outbox? x = none :=
    fun x hx hOther => (hAlike.registry.outbox? (by simpa using hOther)).symm.trans
      (hNone x (hRegisters ▸ hx))
  -- Both are like the run on `r'` in which nothing is done to `id`.
  have hPaired : Paired id (slots.filterMap (·.registers?)) (t, r) (t, r') :=
    .same rfl h hAlike fun x hx _ => hNone x hx
  have hPaired' : Paired id (slots'.filterMap (·.registers?)) (t, r') (t, r') :=
    .same rfl h (.refl hAlike.registry.distinct') hNone'
  have hFirst := (hPaired.turns hOnce).run
  have hSecond := (hPaired'.turns (hRegisters ▸ hOnce)).run
  rw [← hSlots] at hSecond
  exact ⟨hFirst.1.trans hSecond.1.symm, hFirst.2.trans hSecond.2.symm⟩

/-! ### Activities under way -/

namespace Throng

variable {κ : Type} {program : κ → Activity α} {p p' : Throng κ α} {n : Nat} {t : Strand κ α}

/-- What happens to all is, for one of the activities, what happens to it and what others do meanwhile. -/
theorem Step.exists_slots (h : Step program p p') (hStrand : p.strands[n]? = some t) :
    ∃ (slots : List Slot) (t' : Strand κ α), p'.strands[n]? = some t' ∧
      slots.foldl (fun s slot => slot.turn s) (t.rest, p.relay) = (t'.rest, p'.relay) := by
  have hLength : n < p.strands.length := (List.getElem?_eq_some_iff.1 hStrand).1
  cases h with
  | starts k => exact ⟨[], t, (List.getElem?_append_left hLength).trans hStrand, rfl⟩
  | performs hOther hRest =>
    rename_i m u action next
    by_cases hSame : m = n
    · subst hSame
      obtain rfl : u = t := Option.some.inj (hOther.symm.trans hStrand)
      refine ⟨[.goesOn], _, List.getElem?_set_self hLength, ?_⟩
      rw [List.foldl_cons, List.foldl_nil, hRest]
      rfl
    · exact ⟨[.others action], t, (List.getElem?_set_ne hSame).trans hStrand, rfl⟩
  | fails cause hOther hRest =>
    rename_i m u c next
    by_cases hSame : m = n
    · subst hSame
      obtain rfl : u = t := Option.some.inj (hOther.symm.trans hStrand)
      refine ⟨[.fails cause], _, List.getElem?_set_self hLength, ?_⟩
      rw [List.foldl_cons, List.foldl_nil, hRest]
      rfl
    · exact ⟨[], t, (List.getElem?_set_ne hSame).trans hStrand, rfl⟩
  | others action => exact ⟨[.others action], t, hStrand, rfl⟩
  | dropsReader id => exact ⟨[.dropsReader id], t, hStrand, rfl⟩

theorem exists_slots (hSteps : Relation.ReflTransGen (Step program) p p')
    (hStrand : p.strands[n]? = some t) :
    ∃ (slots : List Slot) (t' : Strand κ α), p'.strands[n]? = some t' ∧
      slots.foldl (fun s slot => slot.turn s) (t.rest, p.relay) = (t'.rest, p'.relay) := by
  induction hSteps with
  | refl => exact ⟨[], t, hStrand, rfl⟩
  | tail _ hStep ih =>
    obtain ⟨slots, t₁, hStrand₁, hTurns⟩ := ih
    obtain ⟨more, t₂, hStrand₂, hMore⟩ := hStep.exists_slots hStrand₁
    exact ⟨slots ++ more, t₂, hStrand₂, by rw [List.foldl_append, hTurns, hMore]⟩

/-- Activities that end in a fan-out do so as long as they go on. -/
theorem Step.endsInFanOut (h : Step program p p') (hProgram : ∀ k, (program k).EndsInFanOut)
    (hAll : ∀ t ∈ p.strands, t.rest.EndsInFanOut) : ∀ t ∈ p'.strands, t.rest.EndsInFanOut := by
  intro t ht
  cases h with
  | starts k =>
    rcases List.mem_append.1 ht with ht | ht
    · exact hAll t ht
    · obtain rfl := List.mem_singleton.1 ht
      exact hProgram k
  | performs hStrand hRest =>
    rcases List.mem_or_eq_of_mem_set ht with ht | rfl
    · exact hAll t ht
    · exact (hRest ▸ hAll _ (List.mem_of_getElem? hStrand)).next _
  | fails cause hStrand hRest =>
    rcases List.mem_or_eq_of_mem_set ht with ht | rfl
    · exact hAll t ht
    · exact (hRest ▸ hAll _ (List.mem_of_getElem? hStrand)).next _
  | others action => exact hAll t ht
  | dropsReader id => exact hAll t ht

theorem Run.endsInFanOut {start : Relay} (h : Run program start p)
    (hProgram : ∀ k, (program k).EndsInFanOut) : ∀ t ∈ p.strands, t.rest.EndsInFanOut := by
  induction h with
  | refl => simp
  | tail _ hStep ih => exact hStep.endsInFanOut hProgram ih

end Throng

end ChatRelay
