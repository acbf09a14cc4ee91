import ChatRelay.Proofs.Access
import ChatRelay.Proofs.Persistence
import ChatRelay.Proofs.Store.Openings
import ChatRelay.Proofs.Store.Statements

/-! Activities whose calls on the store go wrong.  Any call may fail and leave the store as it was, the
inserts of an opening may meet triggers, and a single insert may be dropped in silence.  `Activity.MayEnd`
says how an activity may end then, alone, and `Operation.MayEndHeeded` how an operation may if no single
insert is dropped; what each operation does is said below, whatever goes wrong. -/

namespace ChatRelay

open Store (Call)

/-! ### Calls that go wrong -/

/-- A call may answer this and leave the store so, if no single insert is dropped: it is carried out, or
fails, or it opens a conversation behind triggers. -/
def Store.Call.Heeded (c : Call) (s : Store) (answer : Except Store.Error c.Answer) (s' : Store) : Prop :=
  (answer, s') = s.call c ∨ (∃ cause, answer = .error cause ∧ s' = s) ∨
    match c, answer with
    | .findOrCreateDirect id a b, answer => ∃ t, (answer, s') = s.openAmid t id a b
    | _, _ => False

/-- A single insert is dropped in silence, by a call that counts no rows and so answers as if there were one.
`createChannel` counts, and fails. -/
inductive Store.Call.Dropped (s : Store) : (c : Call) → Except Store.Error c.Answer → Store → Prop
  | user (id username : String) (fullName : Option String) (hUsable : s.poisoned = false) :
      Dropped s (.createUser id username fullName) (.ok ()) s
  | member (channel user : String) (hUsable : s.poisoned = false) :
      Dropped s (.addMember channel user) (.ok ()) s
  | message (row : Store.MessageRow) (hUsable : s.poisoned = false) :
      Dropped s (.insertMessage row) (.ok ()) s

/-- A call may answer this and leave the store so. -/
def Store.Call.MayDo (c : Call) (s : Store) (answer : Except Store.Error c.Answer) (s' : Store) : Prop :=
  c.Heeded s answer s' ∨ Dropped s c answer s'

namespace Action

/-- An action may answer this and leave the relay so, if no single insert is dropped. -/
def Heeded : (action : Action) → Relay → action.Answer → Relay → Prop
  | .call c, r, answer, r' => ∃ s, c.Heeded r.store answer s ∧ r' = { r with store := s }
  | action, r, answer, r' => (answer, r') = action.perform r

/-- An action may answer this and leave the relay so. -/
def MayDo : (action : Action) → Relay → action.Answer → Relay → Prop
  | .call c, r, answer, r' => ∃ s, c.MayDo r.store answer s ∧ r' = { r with store := s }
  | action, r, answer, r' => (answer, r') = action.perform r

end Action

/-- An activity that is begun in one state may end with a value in another, when each of its actions does
what it may. -/
def Activity.EndsBy {α : Type} (may : (action : Action) → Relay → action.Answer → Relay → Prop) :
    Activity α → Relay → α → Relay → Prop
  | .done b, r, a, r' => a = b ∧ r' = r
  | .act action next, r, a, r'' => ∃ answer r', may action r answer r' ∧ (next answer).EndsBy may r' a r''

/-- An activity that is begun in one state may end with a value in another. -/
def Activity.MayEnd {α : Type} (t : Activity α) (r : Relay) (a : α) (r' : Relay) : Prop :=
  t.EndsBy Action.MayDo r a r'

namespace Operation

/-- An operation that is begun in one state may end with a result in another. -/
def MayEnd {α : Type} (op : Operation α) (r : Relay) (result : Except RelayError α) (r' : Relay) : Prop :=
  Activity.MayEnd op.run r result r'

/-- An operation that is begun in one state may end with a result in another, with no single insert
dropped. -/
def MayEndHeeded {α : Type} (op : Operation α) (r : Relay) (result : Except RelayError α) (r' : Relay) :
    Prop :=
  Activity.EndsBy Action.Heeded op.run r result r'

end Operation

section Calls

variable {s s' : Store} {c : Call} {answer : Except Store.Error c.Answer}

/-- A call that reads leaves the store as it was, and finds what it would find, or fails. -/
theorem Store.Call.MayDo.of_read (h : c.MayDo s answer s') (hRead : c.IsRead) :
    s' = s ∧ (answer = (s.call c).1 ∨ ∃ cause, answer = .error cause) := by
  obtain (hCall | ⟨cause, rfl, rfl⟩ | hOpen) | hDropped := h
  · obtain ⟨rfl, rfl⟩ := Prod.mk.inj hCall
    exact ⟨Store.call_of_isRead hRead, .inl rfl⟩
  · exact ⟨rfl, .inr ⟨cause, rfl⟩⟩
  · cases c <;> first | exact False.elim hOpen | exact False.elim hRead
  · cases hDropped <;> exact False.elim hRead

theorem Store.openAmid_eq_self_of_error {t : Triggers} {id a b : String} {cause : Store.Error}
    (h : (s.openAmid t id a b).1 = .error cause) : (s.openAmid t id a b).2 = s := by
  unfold openAmid at h ⊢
  split
  · rfl
  · rename_i hUsable
    rw [if_neg hUsable] at h
    cases hOpen : s.database.openAmid t id a b with
    | error e => rfl
    | ok result =>
      rw [hOpen] at h
      contradiction

/-- A call that fails leaves the store as it was. -/
theorem Store.Call.MayDo.of_error {cause : Store.Error} (h : c.MayDo s (.error cause) s') : s' = s := by
  obtain (hCall | ⟨-, -, rfl⟩ | hOpen) | hDropped := h
  · obtain ⟨hError, rfl⟩ := Prod.mk.inj hCall
    exact Store.call_eq_self_of_error hError.symm
  · rfl
  · cases c with
    | findOrCreateDirect id a b =>
      obtain ⟨t, hOpen⟩ := hOpen
      obtain ⟨hError, rfl⟩ := Prod.mk.inj hOpen
      exact Store.openAmid_eq_self_of_error hError.symm
    | _ => exact False.elim hOpen
  · cases hDropped

theorem Store.messages_openAmid (s : Store) (t : Triggers) (id a b : String) :
    (s.openAmid t id a b).2.database.messages = s.database.messages := by
  unfold openAmid
  split
  · rfl
  cases hOpen : s.database.openAmid t id a b with
  | error cause => rfl
  | ok result =>
    obtain ⟨created, db⟩ := result
    obtain ⟨-, -, rfl⟩ | ⟨-, -, -, db₁, db₂, hChannel, hFirst, hSecond⟩ := Database.openAmid_ok hOpen
    · rfl
    · have hRows₁ : db₁.messages = s.database.messages := by
        obtain ⟨-, rfl⟩ | ⟨-, rfl⟩ := Database.insertChannelAmid_ok hChannel <;> rfl
      have hRows₂ : db₂.messages = db₁.messages := by
        obtain rfl | ⟨-, -, rfl⟩ := Database.insertMemberAmid_ok hFirst <;> rfl
      have hRows : db.messages = db₂.messages := by
        obtain rfl | ⟨-, -, rfl⟩ := Database.insertMemberAmid_ok hSecond <;> rfl
      exact hRows.trans (hRows₂.trans hRows₁)

theorem Store.Call.MayDo.messages (h : c.MayDo s answer s') (hOther : ¬ c.IsInsert) :
    s'.database.messages = s.database.messages := by
  obtain (hCall | ⟨cause, rfl, rfl⟩ | hOpen) | hDropped := h
  · rw [(Prod.mk.inj hCall).2]
    exact Store.messages_of_call hOther
  · rfl
  · cases c with
    | findOrCreateDirect id a b =>
      obtain ⟨t, hOpen⟩ := hOpen
      rw [(Prod.mk.inj hOpen).2]
      exact s.messages_openAmid t id a b
    | _ => exact False.elim hOpen
  · cases hDropped <;> rfl

theorem Store.Call.Heeded.messages_insert {row : Store.MessageRow}
    (h : (Call.insertMessage row).Heeded s (.ok ()) s') :
    s'.database.messages = s.database.messages ++ [row] := by
  obtain hCall | ⟨cause, hError, -⟩ | hOpen := h
  · obtain ⟨-, hRows⟩ | ⟨cause, hError⟩ := Store.call_insertMessage s row
    · rw [← hCall] at hRows
      exact hRows
    · rw [← hCall] at hError
      cases hError
  · contradiction
  · exact False.elim hOpen

end Calls

/-! ### Actions -/

namespace Action

variable {action : Action} {r r' : Relay} {answer : action.Answer}

theorem heeded_perform (action : Action) (r : Relay) :
    action.Heeded r (action.perform r).1 (action.perform r).2 := by
  cases action with
  | call c => exact ⟨_, .inl rfl, rfl⟩
  | _ => rfl

theorem Heeded.mayDo (h : action.Heeded r answer r') : action.MayDo r answer r' := by
  cases action with
  | call c =>
    obtain ⟨s, hDo, rfl⟩ := h
    exact ⟨s, .inl hDo, rfl⟩
  | _ => exact h

theorem MayDo.of_onRegistry (h : action.MayDo r answer r') (hAction : action.OnRegistry) :
    answer = (action.perform r).1 ∧ r' = (action.perform r).2 := by
  cases action with
  | call c => exact False.elim hAction
  | stamp wall => exact False.elim hAction
  | _ => exact Prod.mk.inj h

theorem MayDo.eq_of_isRead (h : action.MayDo r answer r') (hRead : action.IsRead) : r' = r := by
  obtain ⟨c, hRead, rfl⟩ := hRead
  obtain ⟨s, hDo, rfl⟩ := h
  rw [(hDo.of_read hRead).1]

theorem MayDo.messages_of_isQuiet (h : action.MayDo r answer r') (hQuiet : action.IsQuiet) :
    r'.store.database.messages = r.store.database.messages := by
  cases action with
  | call c =>
    obtain ⟨s, hDo, rfl⟩ := h
    exact hDo.messages hQuiet
  | stamp wall => rw [(Prod.mk.inj h).2]
  | _ => exact False.elim hQuiet

end Action

/-! ### Activities -/

namespace Activity

variable {α β : Type} {r r' : Relay} {a : α}

theorem EndsBy.mono {may may' : (action : Action) → Relay → action.Answer → Relay → Prop} {t : Activity α}
    (h : t.EndsBy may r a r') (hMay : ∀ {action : Action} {r answer r'}, may action r answer r' →
      may' action r answer r') : t.EndsBy may' r a r' := by
  induction t generalizing r with
  | done b => exact h
  | act action next ih =>
    obtain ⟨answer, r₁, hDo, hRest⟩ := h
    exact ⟨answer, r₁, hMay hDo, ih answer hRest⟩

/-- When nothing goes wrong, an activity ends as it is run. -/
theorem endsBy_heeded_run (t : Activity α) (r : Relay) :
    t.EndsBy Action.Heeded r (t.run r).1 (t.run r).2 := by
  induction t generalizing r with
  | done a => exact ⟨rfl, rfl⟩
  | act action next ih => exact ⟨_, _, action.heeded_perform r, ih _ _⟩

theorem mayEnd_run (t : Activity α) (r : Relay) : t.MayEnd r (t.run r).1 (t.run r).2 :=
  (t.endsBy_heeded_run r).mono Action.Heeded.mayDo

theorem mayEnd_bind (t : Activity α) (f : α → Activity β) (r : Relay) (b : β) (r'' : Relay) :
    (t >>= f).MayEnd r b r'' ↔ ∃ a r', t.MayEnd r a r' ∧ (f a).MayEnd r' b r'' := by
  induction t generalizing r with
  | done a =>
    constructor
    · exact fun h => ⟨a, r, ⟨rfl, rfl⟩, h⟩
    · rintro ⟨a, r', hFirst, hNext⟩
      obtain ⟨rfl, rfl⟩ := hFirst
      exact hNext
  | act action next ih =>
    constructor
    · rintro ⟨answer, r₁, hDo, hRest⟩
      obtain ⟨a, r', hFirst, hNext⟩ := (ih answer r₁).1 hRest
      exact ⟨a, r', ⟨answer, r₁, hDo, hFirst⟩, hNext⟩
    · rintro ⟨a, r', ⟨answer, r₁, hDo, hFirst⟩, hNext⟩
      exact ⟨answer, r₁, hDo, (ih answer r₁).2 ⟨a, r', hFirst, hNext⟩⟩

theorem Always.mayEnd {ok : Action → Prop} {ends : α → Prop} {P : Relay → Prop} {t : Activity α}
    (h : t.Always ok ends)
    (hStep : ∀ (action : Action) r answer r', ok action → action.MayDo r answer r' → P r → P r')
    (hEnd : t.MayEnd r a r') (hr : P r) : ends a ∧ P r' := by
  induction t generalizing r with
  | done b =>
    obtain ⟨rfl, rfl⟩ := hEnd
    exact ⟨h, hr⟩
  | act action next ih =>
    obtain ⟨answer, r₁, hDo, hRest⟩ := hEnd
    exact ih answer (h.2 answer) hRest (hStep action r answer r₁ h.1 hDo hr)

end Activity

/-! ### Posts -/

section Posts

variable {r r' : Relay} {m : Message} {answered : Except RelayError Message}
  {t : Activity (Except RelayError Message)}

theorem Action.MayDo.store_of_tells {action : Action} {answer : action.Answer} {frame : Frame}
    (hTells : action.IsRead ∨ action.Spreads frame) (h : action.MayDo r answer r') : r'.store = r.store := by
  obtain hRead | hSpreads := hTells
  · rw [h.eq_of_isRead hRead]
  · rw [(h.of_onRegistry hSpreads.onRegistry).2, Action.store_perform_of_onRegistry hSpreads.onRegistry]

/-- Once its message is stored, a post ends with it, and the store stays. -/
theorem Activity.Saved.mayEnd (h : t.Saved m) (hEnd : t.MayEnd r answered r') :
    answered = .ok m ∧ r'.store = r.store := by
  have hBoth := Activity.Always.mayEnd (P := fun r₁ => r₁.store = r.store) h
    (fun _ _ _ _ hTells hDo hSame => (hDo.store_of_tells hTells).trans hSame) hEnd rfl
  exact hBoth

/-- A post that succeeds has stored its message, if that was not dropped. -/
theorem Activity.Unsaved.messages_of_heeded {id : Uuid} (h : t.Unsaved id)
    (hEnd : t.EndsBy Action.Heeded r (.ok m) r') :
    r'.store.database.messages = r.store.database.messages ++ [.ofMessage m] := by
  induction h generalizing r with
  | failed e => exact absurd hEnd.1 (by simp)
  | quiet hQuiet hNext ih =>
    obtain ⟨answer, r₁, hDo, hRest⟩ := hEnd
    rw [ih answer hRest, hDo.mayDo.messages_of_isQuiet hQuiet]
  | insert hId hSaved hFailed ih =>
    obtain ⟨answer, _, ⟨s, hDo, rfl⟩, hRest⟩ := hEnd
    cases answer with
    | ok done =>
      obtain ⟨hOk, hStays⟩ := hSaved.mayEnd (hRest.mono Action.Heeded.mayDo)
      obtain rfl := Except.ok.inj hOk
      rw [hStays]
      exact hDo.messages_insert
    | error cause =>
      have hSame := Store.Call.MayDo.of_error (.inl hDo)
      rw [ih cause hRest, hSame]

end Posts

/-! ### Operations -/

namespace Operation

variable {α β : Type} {r r' r'' : Relay}

theorem mayEnd_pure {a : α} {result : Except RelayError α} :
    MayEnd (pure a) r result r' ↔ result = .ok a ∧ r' = r :=
  .rfl

theorem mayEnd_throw {e : RelayError} {result : Except RelayError α} :
    MayEnd (throw e) r result r' ↔ result = .error e ∧ r' = r :=
  .rfl

/-- Two operations in a row: the first fails, or the second is begun with what the first ended with. -/
theorem mayEnd_bind {op : Operation α} {f : α → Operation β} {result : Except RelayError β} :
    MayEnd (op >>= f) r result r'' ↔
      (∃ e, result = .error e ∧ op.MayEnd r (.error e) r'') ∨
        ∃ a r', op.MayEnd r (.ok a) r' ∧ (f a).MayEnd r' result r'' := by
  refine (Activity.mayEnd_bind ..).trans ⟨?_, ?_⟩
  · rintro ⟨e | a, r', hFirst, hNext⟩
    · obtain ⟨rfl, rfl⟩ := hNext
      exact .inl ⟨e, rfl, hFirst⟩
    · exact .inr ⟨a, r', hFirst, hNext⟩
  · rintro (⟨e, rfl, hFirst⟩ | ⟨a, r', hFirst, hNext⟩)
    · exact ⟨_, _, hFirst, rfl, rfl⟩
    · exact ⟨_, _, hFirst, hNext⟩

theorem mayEnd_call {c : Call} {result : Except RelayError c.Answer} :
    MayEnd (call c) r result r' ↔ ∃ answer s, c.MayDo r.store answer s ∧ r' = { r with store := s } ∧
      result = answer.mapError .storage := by
  refine (Activity.mayEnd_bind ..).trans ⟨?_, ?_⟩
  · rintro ⟨answer, r₁, ⟨_, _, ⟨s, hDo, rfl⟩, rfl, rfl⟩, hNext⟩
    refine ⟨answer, s, hDo, ?_⟩
    cases answer <;> exact ⟨hNext.2, hNext.1⟩
  · rintro ⟨answer, s, hDo, rfl, rfl⟩
    refine ⟨answer, _, ⟨answer, _, ⟨s, hDo, rfl⟩, rfl, rfl⟩, ?_⟩
    cases answer <;> exact ⟨rfl, rfl⟩

/-- Where a call is all that can fail, it is the store that has failed. -/
theorem mayEnd_call_error {c : Call} {e : RelayError} (h : MayEnd (call c) r (.error e) r') :
    ∃ cause, e = .storage cause := by
  obtain ⟨answer, s, -, -, hError⟩ := mayEnd_call.1 h
  cases answer with
  | ok found => contradiction
  | error cause => exact ⟨cause, Except.error.inj hError⟩

theorem mayEnd_lift {t : Activity α} {result : Except RelayError α} :
    MayEnd (ExceptT.lift t) r result r' ↔ ∃ a, result = .ok a ∧ t.MayEnd r a r' := by
  refine (Activity.mayEnd_bind ..).trans ⟨?_, ?_⟩
  · rintro ⟨a, r₁, hFirst, rfl, rfl⟩
    exact ⟨a, rfl, hFirst⟩
  · rintro ⟨a, rfl, hFirst⟩
    exact ⟨a, r', hFirst, rfl, rfl⟩

theorem mayEnd_runOn (op : Operation α) (r : Relay) : op.MayEnd r (runOn op r).1 (runOn op r).2 :=
  Activity.mayEnd_run op.run r

theorem MayEndHeeded.mayEnd {op : Operation α} {result : Except RelayError α}
    (h : op.MayEndHeeded r result r') : op.MayEnd r result r' :=
  Activity.EndsBy.mono h Action.Heeded.mayDo

theorem Uses.mayEnd {ok : Action → Prop} {P : Relay → Prop} {op : Operation α} (h : Uses ok op)
    (hStep : ∀ (action : Action) r answer r', ok action → action.MayDo r answer r' → P r → P r')
    {result : Except RelayError α} (hEnd : op.MayEnd r result r') (hr : P r) : P r' :=
  (Activity.Always.mayEnd h hStep hEnd hr).2

end Operation

/-! ### Operations that only read -/

namespace Activity

variable {α β : Type} {r r' : Relay}

/-- Every action on the way is a call that reads, and where one fails, that is the end. -/
inductive Reads : Activity (Except RelayError α) → Prop
  | done (result : Except RelayError α) : Reads (.done result)
  | call {c : Call} {next : (Action.call c).Answer → Activity (Except RelayError α)} (hRead : c.IsRead)
      (hFailed : ∀ cause, next (.error cause) = .done (.error (.storage cause)))
      (hNext : ∀ answer, Reads (next (.ok answer))) : Reads (.act (.call c) next)

/-- Whatever goes wrong, an activity that only reads leaves the relay as it was, and ends as it is run
unless a call fails. -/
theorem Reads.mayEnd {t : Activity (Except RelayError α)} (h : t.Reads) {result : Except RelayError α}
    (hEnd : t.MayEnd r result r') :
    r' = r ∧ (result = (t.run r).1 ∨ ∃ cause, result = .error (.storage cause)) := by
  induction h with
  | done expected =>
    obtain ⟨rfl, rfl⟩ := hEnd
    exact ⟨rfl, .inl rfl⟩
  | call hRead hFailed hNext ih =>
    rename_i c next
    obtain ⟨answer, _, ⟨s, hDo, rfl⟩, hRest⟩ := hEnd
    obtain ⟨rfl, hAnswer⟩ := hDo.of_read hRead
    cases answer with
    | error cause =>
      rw [hFailed] at hRest
      exact ⟨hRest.2, .inr ⟨cause, hRest.1⟩⟩
    | ok found =>
      obtain hFound | ⟨cause, hError⟩ := hAnswer
      · have hRun : (Activity.act (.call c) next).run r = (next (.ok found)).run r := by
          rw [run_act, Action.perform_of_isRead ⟨c, hRead, rfl⟩]
          exact congrArg (fun answer => (next answer).run r) hFound.symm
        rw [hRun]
        exact ih found hRest
      · contradiction

end Activity

namespace Operation

variable {α β : Type} {r r' : Relay}

def Reads (op : Operation α) : Prop :=
  Activity.Reads op.run

theorem Reads.pure (a : α) : Reads (pure a) :=
  .done (.ok a)

theorem Reads.throw (e : RelayError) : Reads (throw e : Operation α) :=
  .done (.error e)

theorem Reads.call {c : Call} (hRead : c.IsRead) : Reads (Operation.call c) :=
  Activity.Reads.call hRead (fun _ => rfl) fun answer => .done (.ok answer)

theorem Reads.bind {op : Operation α} {f : α → Operation β} (h : op.Reads) (hNext : ∀ a, (f a).Reads) :
    (op >>= f).Reads := by
  unfold Reads at h ⊢
  rw [ExceptT.run_bind]
  generalize op.run = t at h
  induction h with
  | done result =>
    cases result with
    | ok a => exact hNext a
    | error e => exact .done (.error e)
  | call hRead hFailed _ ih =>
    refine Activity.Reads.call hRead (fun cause => ?_) ih
    rw [hFailed]
    rfl

theorem Reads.mayEnd {op : Operation α} (h : op.Reads) {result : Except RelayError α}
    (hEnd : op.MayEnd r result r') :
    r' = r ∧ (result = (runOn op r).1 ∨ ∃ cause, result = .error (.storage cause)) :=
  Activity.Reads.mayEnd h hEnd

end Operation

end ChatRelay
