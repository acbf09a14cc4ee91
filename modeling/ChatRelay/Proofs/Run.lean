import ChatRelay.Proofs.Posting
import ChatRelay.Startup

/-! Runs of a relay: one completed operation after another.  An operation is anything that clients, the
transport or an administration console may do.  `Sound` is what every run keeps: the keys of the store
tell its rows apart, and the registry lists no user twice. -/

namespace ChatRelay

/-- One thing that happens to a relay. -/
inductive Event where
  /-- A connection is registered. -/
  | register (id : ConnectionId)
  /-- A connection is unregistered. -/
  | unregister (id : ConnectionId)
  /-- A connection's queue is read. -/
  | take (id : ConnectionId)
  /-- The reading end of a connection's queue is dropped. -/
  | dropReader (id : ConnectionId)
  /-- A connection is told of an error. -/
  | sendError (id : ConnectionId) (code : ErrorCode) (channel : Option String)
  /-- A user posts. -/
  | post (sender : String) (req : SendRequest) (fresh : Fresh)
  /-- A user asks for something else. -/
  | ask (s : Service)
  /-- The store is called directly. -/
  | edit (c : Store.Call)

/-- The relay after an event. -/
def Event.apply : Event → Relay → Relay
  | register id, r => ((Action.register id).perform r).2
  | unregister id, r => ((Action.unregister id).perform r).2
  | take id, r => ((Action.take id).perform r).2
  | dropReader id, r => { r with registry := r.registry.dropReader id }
  | sendError id code channel, r => ((ChatRelay.sendError id code channel).run r).2
  | post sender req fresh, r => ((ChatRelay.post sender req fresh).runOn r).2
  | ask s, r => (s.operation.runOn r).2
  | edit c, r => ((Action.call c).perform r).2

namespace Relay

/-- The relay after events, one after another. -/
def after (r : Relay) (events : List Event) : Relay :=
  events.foldl (fun r e => e.apply r) r

@[simp] theorem after_cons (r : Relay) (e : Event) (events : List Event) :
    r.after (e :: events) = (e.apply r).after events := rfl

theorem after_append (r : Relay) (before events : List Event) :
    r.after (before ++ events) = (r.after before).after events :=
  List.foldl_append

end Relay

/-- What every action preserves, and the end of a reader does, every event preserves. -/
theorem Event.apply_preserves {P : Relay → Prop}
    (hAction : ∀ (action : Action) r, P r → P (action.perform r).2)
    (hDrop : ∀ id r, P r → P { r with registry := r.registry.dropReader id }) (e : Event) {r : Relay}
    (h : P r) : P (e.apply r) := by
  cases e with
  | register id => exact hAction _ r h
  | unregister id => exact hAction _ r h
  | take id => exact hAction _ r h
  | dropReader id => exact hDrop id r h
  | sendError id code channel => exact Activity.run_preserves hAction _ h
  | post sender req fresh => exact Activity.run_preserves hAction _ h
  | ask s => exact Activity.run_preserves hAction _ h
  | edit c => exact hAction _ r h

namespace Relay

theorem after_preserves {P : Relay → Prop}
    (hAction : ∀ (action : Action) r, P r → P (action.perform r).2)
    (hDrop : ∀ id r, P r → P { r with registry := r.registry.dropReader id }) (events : List Event)
    {r : Relay} (h : P r) : P (r.after events) := by
  induction events generalizing r with
  | nil => exact h
  | cons e rest ih => exact ih (e.apply_preserves hAction hDrop h)

/-- The keys of the store tell its rows apart, and the registry lists no user twice. -/
structure Sound (r : Relay) : Prop where
  keyed : r.store.database.Keyed
  distinct : r.registry.Distinct

theorem Sound.perform {r : Relay} (h : r.Sound) (action : Action) : (action.perform r).2.Sound := by
  refine ⟨h.keyed.changes (Action.changes_perform action r), ?_⟩
  cases action with
  | call c => exact h.distinct
  | stamp wall => exact h.distinct
  | offer audience frame => exact h.distinct.offer ..
  | sendTo id frame => exact h.distinct.sendTo ..
  | register id => exact h.distinct.register ..
  | unregister id => exact h.distinct.unregister ..
  | take id => exact h.distinct.take ..

theorem Sound.dropReader {r : Relay} (h : r.Sound) (id : ConnectionId) :
    Sound { r with registry := r.registry.dropReader id } :=
  ⟨h.keyed, h.distinct.dropReader id⟩

theorem Sound.apply {r : Relay} (h : r.Sound) (e : Event) : (e.apply r).Sound :=
  e.apply_preserves (fun action _ h => h.perform action) (fun id _ h => h.dropReader id) h

theorem Sound.after {r : Relay} (h : r.Sound) (events : List Event) : (r.after events).Sound :=
  after_preserves (fun action _ h => h.perform action) (fun id _ h => h.dropReader id) events h

theorem linked_after {r : Relay} (h : r.store.database.Linked) (events : List Event) :
    (r.after events).store.database.Linked :=
  after_preserves (P := fun r => r.store.database.Linked)
    (fun action r h => h.changes (action.changes_perform r)) (fun _ _ h => h) events h

theorem keyed_fresh : Store.Database.fresh.Keyed := by
  constructor <;> simp [Store.Database.fresh]

theorem sound_ofDatabase {db : Store.Database} (h : db.Keyed) (capacity : Nat) :
    (Relay.ofDatabase db capacity).Sound :=
  ⟨h, Registry.distinct_ofCapacity capacity⟩

end Relay

end ChatRelay
