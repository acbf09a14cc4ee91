import ChatRelay.Registry
import ChatRelay.Store

/-! Activities: what an operation of the relay does, one atomic action after another.  Between two
actions of an activity, others may act.  Run alone, an activity is a function on the state that it shares
with them. -/

namespace ChatRelay

open Registry (Audience Offer Reading)

/-- What activities share: the store, the registry, and the last time given to a message. -/
structure Relay where
  store : Store
  registry : Registry
  lastStamp : Int64 := 0

inductive Action where
  /-- A call on the store. -/
  | call (c : Store.Call)
  /-- The time for a new message, given the wall clock. -/
  | stamp (wall : Int64)
  /-- An offer of a frame. -/
  | offer (audience : Audience) (frame : Frame)
  /-- An offer of a frame to one connection. -/
  | sendTo (id : ConnectionId) (frame : Frame)
  /-- The start of a registration. -/
  | register (id : ConnectionId)
  /-- The end of a registration. -/
  | unregister (id : ConnectionId)
  /-- A read of a connection's queue. -/
  | take (id : ConnectionId)

namespace Action

/-- What an action answers. -/
def Answer : Action → Type
  | call c => Except Store.Error c.Answer
  | stamp _ => Int64
  | offer .. => Offer
  | sendTo .. => Bool
  | register _ => Bool
  | unregister _ => Bool
  | take _ => Reading

/-- What an action does.  Times never go back: a message gets the wall clock's time, or the last time
given if that is later. -/
def perform : (a : Action) → Relay → a.Answer × Relay
  | call c, r =>
    let (answer, store) := r.store.call c
    (answer, { r with store })
  | stamp wall, r =>
    let time := max r.lastStamp wall
    (time, { r with lastStamp := time })
  | offer audience frame, r =>
    let (report, registry) := r.registry.offer audience frame
    (report, { r with registry })
  | sendTo id frame, r =>
    let (taken, registry) := r.registry.sendTo id frame
    (taken, { r with registry })
  | register id, r =>
    let (registered, registry) := r.registry.register id
    (registered, { r with registry })
  | unregister id, r =>
    let (removed, registry) := r.registry.unregister id
    (removed, { r with registry })
  | take id, r =>
    let (reading, registry) := r.registry.take id
    (reading, { r with registry })

end Action

/-- An activity that ends with a value. -/
inductive Activity (α : Type) where
  | done (a : α)
  | act (action : Action) (next : action.Answer → Activity α)

namespace Activity

variable {α β : Type}

def bind : Activity α → (α → Activity β) → Activity β
  | done a, f => f a
  | act action next, f => act action fun answer => (next answer).bind f

instance : Monad Activity where
  pure := done
  bind := bind

def ofAction (action : Action) : Activity action.Answer :=
  act action done

/-- Runs an activity alone. -/
def run : Activity α → Relay → α × Relay
  | done a, r => (a, r)
  | act action next, r =>
    let (answer, r) := action.perform r
    (next answer).run r

@[simp] theorem run_pure (a : α) (r : Relay) : (pure a : Activity α).run r = (a, r) := rfl

@[simp] theorem run_ofAction (action : Action) (r : Relay) :
    (ofAction action).run r = action.perform r := rfl

theorem run_bind (t : Activity α) (f : α → Activity β) (r : Relay) :
    (t >>= f).run r = (f (t.run r).1).run (t.run r).2 := by
  induction t generalizing r with
  | done a => rfl
  | act action next ih => exact ih _ _

end Activity

end ChatRelay
