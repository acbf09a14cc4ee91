import ChatRelay.Relay.Error
import ChatRelay.Activity

/-! Operations: activities that may fail. -/

namespace ChatRelay

/-- An activity that may fail. -/
abbrev Operation (α : Type) := ExceptT RelayError Activity α

namespace Operation

/-- A call on the store; its failure is the operation's. -/
def call (c : Store.Call) : Operation c.Answer :=
  ExceptT.mk do
    match ← Activity.ofAction (.call c) with
    | .ok answer => return .ok answer
    | .error cause => return .error (.storage cause)

def perform (action : Action) : Operation action.Answer :=
  ExceptT.lift (Activity.ofAction action)

/-- Runs an operation for what it does, whether or not it fails. -/
def attempt {α : Type} (op : Operation α) : Operation (Except RelayError α) :=
  ExceptT.lift op.run

def runOn {α : Type} (op : Operation α) (r : Relay) : Except RelayError α × Relay :=
  Activity.run (ExceptT.run op) r

end Operation

end ChatRelay
