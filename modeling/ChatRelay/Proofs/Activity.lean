import ChatRelay.Relay.Operation
import Mathlib.Control.Lawful

/-! What holds of every way through an activity.  `Always` walks the tree of an activity: every action on
it is of a given kind, and it ends with a value of a given kind, whatever the actions answer.  So it holds
also when others act between two actions.  `Always.run` takes it to a run of the activity alone. -/

namespace ChatRelay

namespace Activity

variable {α β : Type} {ok ok' : Action → Prop} {ends ends' : α → Prop}

/-! ### Laws of the monad -/

theorem bind_done (t : Activity α) : t.bind done = t := by
  induction t with
  | done a => rfl
  | act action next ih =>
    rw [bind]
    exact congrArg _ (funext ih)

theorem bind_assoc {γ : Type} (t : Activity α) (f : α → Activity β) (g : β → Activity γ) :
    (t.bind f).bind g = t.bind fun a => (f a).bind g := by
  induction t with
  | done a => rfl
  | act action next ih =>
    simp only [bind]
    exact congrArg _ (funext ih)

instance : LawfulMonad Activity :=
  .mk' Activity bind_done (fun _ _ => rfl) bind_assoc

theorem run_act (action : Action) (next : action.Answer → Activity α) (r : Relay) :
    (act action next).run r = (next (action.perform r).1).run (action.perform r).2 :=
  rfl

/-! ### Every way through an activity -/

/-- Every action of the activity is `ok`, and what it ends with is one of `ends`, whatever its actions
answer. -/
def Always (ok : Action → Prop) (ends : α → Prop) : Activity α → Prop
  | done a => ends a
  | act action next => ok action ∧ ∀ answer, (next answer).Always ok ends

theorem Always.mono {t : Activity α} (h : t.Always ok ends) (hOk : ∀ action, ok action → ok' action)
    (hEnds : ∀ a, ends a → ends' a) : t.Always ok' ends' := by
  induction t with
  | done a => exact hEnds a h
  | act action next ih => exact ⟨hOk action h.1, fun answer => ih answer (h.2 answer)⟩

theorem always_bind (t : Activity α) (f : α → Activity β) {ends : β → Prop} :
    (t >>= f).Always ok ends ↔ t.Always ok fun a => (f a).Always ok ends := by
  induction t with
  | done a => exact .rfl
  | act action next ih => exact and_congr .rfl (forall_congr' ih)

theorem Always.run {P : Relay → Prop} {t : Activity α} (h : t.Always ok ends)
    (hStep : ∀ action r, ok action → P r → P (action.perform r).2) {r : Relay} (hr : P r) :
    ends (t.run r).1 ∧ P (t.run r).2 := by
  induction t generalizing r with
  | done a => exact ⟨h, hr⟩
  | act action next ih => exact ih _ (h.2 _) (hStep action r h.1 hr)

/-- Every action of the activity is `ok`. -/
def Uses (ok : Action → Prop) (t : Activity α) : Prop :=
  t.Always ok fun _ => True

theorem Uses.mono {t : Activity α} (h : t.Uses ok) (hOk : ∀ action, ok action → ok' action) :
    t.Uses ok' :=
  Always.mono h hOk fun _ => id

theorem Uses.pure (a : α) : (pure a : Activity α).Uses ok :=
  trivial

theorem Uses.ofAction {action : Action} (h : ok action) : (ofAction action).Uses ok :=
  ⟨h, fun _ => trivial⟩

theorem Uses.bind {t : Activity α} {f : α → Activity β} (h : t.Uses ok) (hNext : ∀ a, (f a).Uses ok) :
    (t >>= f).Uses ok :=
  (always_bind t f).2 (Always.mono h (fun _ => id) fun a _ => hNext a)

theorem Uses.run {P : Relay → Prop} {t : Activity α} (h : t.Uses ok)
    (hStep : ∀ action r, ok action → P r → P (action.perform r).2) {r : Relay} (hr : P r) :
    P (t.run r).2 :=
  (Always.run h hStep hr).2

theorem run_preserves {P : Relay → Prop} (hStep : ∀ (action : Action) r, P r → P (action.perform r).2)
    (t : Activity α) {r : Relay} (hr : P r) : P (t.run r).2 := by
  induction t generalizing r with
  | done a => exact hr
  | act action next ih => exact ih _ (hStep action r hr)

end Activity

namespace Operation

variable {α β : Type} {ok ok' : Action → Prop}

/-! ### Every way through an operation -/

/-- What an operation ends with, if it succeeds, is one of `ends`. -/
def OnSuccess (ends : α → Prop) : Except RelayError α → Prop
  | .ok a => ends a
  | .error _ => True

/-- Every action of the operation is `ok`, and if it succeeds it is with one of `ends`. -/
def Always (ok : Action → Prop) (ends : α → Prop) (op : Operation α) : Prop :=
  Activity.Always ok (OnSuccess ends) op.run

theorem Always.mono {op : Operation α} {ends ends' : α → Prop} (h : Always ok ends op)
    (hOk : ∀ action, ok action → ok' action) (hEnds : ∀ a, ends a → ends' a) : Always ok' ends' op := by
  refine Activity.Always.mono h hOk fun result hResult => ?_
  cases result with
  | ok a => exact hEnds a hResult
  | error e => trivial

theorem Always.pure {ends : α → Prop} {a : α} (h : ends a) : Always ok ends (pure a) :=
  h

theorem Always.throw {ends : α → Prop} (e : RelayError) : Always ok ends (throw e) :=
  trivial

theorem Always.bind {op : Operation α} {f : α → Operation β} {mid : α → Prop} {ends : β → Prop}
    (h : Always ok mid op) (hNext : ∀ a, mid a → Always ok ends (f a)) : Always ok ends (op >>= f) := by
  refine (Activity.always_bind _ _).2 (Activity.Always.mono h (fun _ => id) fun result hResult => ?_)
  cases result with
  | ok a => exact hNext a hResult
  | error e => trivial

theorem Always.call {c : Store.Call} {ends : c.Answer → Prop} (h : ok (.call c))
    (hEnds : ∀ answer, ends answer) : Always ok ends (call c) := by
  refine (Activity.always_bind _ _).2 ⟨h, fun answer => ?_⟩
  cases answer with
  | ok answer => exact hEnds answer
  | error e => trivial

theorem Always.lift {t : Activity α} {ends : α → Prop} (h : t.Always ok ends) :
    Always ok ends (ExceptT.lift t) :=
  (Activity.always_bind _ _).2 (Activity.Always.mono h (fun _ => id) fun _ => id)

/-- Every action of the operation is `ok`. -/
def Uses (ok : Action → Prop) (op : Operation α) : Prop :=
  Always ok (fun _ => True) op

theorem Uses.mono {op : Operation α} (h : Uses ok op) (hOk : ∀ action, ok action → ok' action) :
    Uses ok' op :=
  Always.mono h hOk fun _ => id

theorem Uses.pure (a : α) : Uses ok (pure a) :=
  trivial

theorem Uses.throw (e : RelayError) : Uses ok (throw e : Operation α) :=
  trivial

theorem Uses.bind {op : Operation α} {f : α → Operation β} (h : Uses ok op)
    (hNext : ∀ a, Uses ok (f a)) : Uses ok (op >>= f) :=
  Always.bind h fun a _ => hNext a

theorem Uses.lift {t : Activity α} (h : t.Uses ok) : Uses ok (ExceptT.lift t) :=
  Always.lift h

theorem Uses.perform {action : Action} (h : ok action) : Uses ok (perform action) :=
  .lift (.ofAction h)

theorem Uses.call {c : Store.Call} (h : ok (.call c)) : Uses ok (call c) :=
  Always.call h fun _ => trivial

theorem Uses.run {op : Operation α} (h : Uses ok op) : Activity.Uses ok op.run :=
  Activity.Always.mono h (fun _ => id) fun _ _ => trivial

theorem Uses.attempt {op : Operation α} (h : Uses ok op) : Uses ok (attempt op) :=
  .lift h.run

/-! ### Runs of an operation alone -/

variable {r : Relay}

@[simp] theorem runOn_pure (a : α) (r : Relay) : runOn (pure a) r = (.ok a, r) :=
  rfl

@[simp] theorem runOn_throw (e : RelayError) (r : Relay) :
    runOn (throw e : Operation α) r = (.error e, r) :=
  rfl

theorem runOn_bind (op : Operation α) (f : α → Operation β) (r : Relay) :
    runOn (op >>= f) r =
      match runOn op r with
      | (.ok a, r') => runOn (f a) r'
      | (.error e, r') => (.error e, r') := by
  unfold runOn
  rw [ExceptT.run_bind, Activity.run_bind]
  obtain ⟨result, r'⟩ := Activity.run op.run r
  cases result <;> rfl

theorem runOn_bind_of_ok {op : Operation α} {f : α → Operation β} {a : α} {r' : Relay}
    (h : runOn op r = (.ok a, r')) : runOn (op >>= f) r = runOn (f a) r' := by
  rw [runOn_bind, h]

theorem runOn_bind_of_error {op : Operation α} {f : α → Operation β} {e : RelayError} {r' : Relay}
    (h : runOn op r = (.error e, r')) : runOn (op >>= f) r = (.error e, r') := by
  rw [runOn_bind, h]

theorem runOn_bind_eq_ok {op : Operation α} {f : α → Operation β} {b : β} {r'' : Relay}
    (h : runOn (op >>= f) r = (.ok b, r'')) :
    ∃ a r', runOn op r = (.ok a, r') ∧ runOn (f a) r' = (.ok b, r'') := by
  rcases hOp : runOn op r with ⟨result, r'⟩
  cases result with
  | ok a => exact ⟨a, r', rfl, runOn_bind_of_ok hOp ▸ h⟩
  | error e =>
    rw [runOn_bind_of_error hOp] at h
    simp at h

theorem runOn_bind_eq_error {op : Operation α} {f : α → Operation β} {e : RelayError} {r'' : Relay}
    (h : runOn (op >>= f) r = (.error e, r'')) :
    runOn op r = (.error e, r'') ∨
      ∃ a r', runOn op r = (.ok a, r') ∧ runOn (f a) r' = (.error e, r'') := by
  rcases hOp : runOn op r with ⟨result, r'⟩
  cases result with
  | ok a => exact .inr ⟨a, r', rfl, runOn_bind_of_ok hOp ▸ h⟩
  | error e' =>
    rw [runOn_bind_of_error hOp] at h
    obtain ⟨rfl, rfl⟩ : e' = e ∧ r' = r'' := by simpa using h
    exact .inl rfl

theorem runOn_lift (t : Activity α) (r : Relay) :
    runOn (ExceptT.lift t) r = (.ok (t.run r).1, (t.run r).2) := by
  unfold runOn
  rw [ExceptT.run_lift, map_eq_pure_bind, Activity.run_bind]
  rfl

theorem runOn_attempt (op : Operation α) (r : Relay) :
    runOn (attempt op) r = (.ok (runOn op r).1, (runOn op r).2) :=
  runOn_lift op.run r

theorem runOn_perform (action : Action) (r : Relay) :
    runOn (perform action) r = (.ok (action.perform r).1, (action.perform r).2) :=
  runOn_lift _ r

theorem runOn_call (c : Store.Call) (r : Relay) :
    runOn (call c) r =
      match r.store.call c with
      | (.ok answer, store) => (.ok answer, { r with store })
      | (.error cause, store) => (.error (.storage cause), { r with store }) := by
  unfold runOn call
  rw [ExceptT.run_mk, Activity.run_bind, Activity.run_ofAction, Action.perform]
  obtain ⟨answer, store⟩ := r.store.call c
  cases answer <;> rfl

/-- A call that succeeds finds a store that can be used, and does there what it does to its content. -/
theorem runOn_call_eq_ok {c : Store.Call} {answer : c.Answer} {r' : Relay} :
    runOn (call c) r = (.ok answer, r') ↔
      r.store.poisoned = false ∧ ∃ database, c.apply r.store.database = .ok (answer, database) ∧
        r' = { r with store.database := database } := by
  rw [runOn_call, Store.call]
  cases hPoisoned : r.store.poisoned with
  | true => simp
  | false =>
    rcases hApply : c.apply r.store.database with e | ⟨answer', database⟩
    · simp
    · constructor
      · intro h
        obtain ⟨rfl, rfl⟩ : answer' = answer ∧ _ = r' := by simpa using h
        exact ⟨rfl, database, rfl, by simp [hPoisoned]⟩
      · rintro ⟨-, database', hSame, rfl⟩
        obtain ⟨rfl, rfl⟩ : answer' = answer ∧ database = database' := by simpa using hSame
        simp [hPoisoned]

theorem Uses.runOn {P : Relay → Prop} {op : Operation α} (h : Uses ok op)
    (hStep : ∀ action r, ok action → P r → P (action.perform r).2) (hr : P r) :
    P (op.runOn r).2 :=
  Activity.Uses.run h.run hStep hr

end Operation

end ChatRelay
