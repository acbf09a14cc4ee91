import ChatRelay.Proofs.Posting
import ChatRelay.Startup

/-! A message is stored before anybody is told of it, whatever happens at the same time.  `Pool` is a relay
with any number of posts under way, each on a task of its own; `Pool.Step` lets one of them perform its
next action, lets a call of it fail, starts another, answers or aborts the caller of one, or lets something
else happen.  The invariant `Good` gives each task one of two states: its message is not stored and it can
still fail, or its message is stored and it ends with that message whatever becomes of the fan-out. -/

namespace ChatRelay

open Operation (Uses)
open Store (MessageRow)

/-! ### The two states of a post -/

namespace Action

/-- The action neither stores a message nor touches the registry. -/
def IsQuiet : Action → Prop
  | call c => ¬ c.IsInsert
  | stamp _ => True
  | _ => False

theorem IsRead.isQuiet {action : Action} (h : action.IsRead) : action.IsQuiet := by
  obtain ⟨c, hRead, rfl⟩ := h
  exact hRead.not_isInsert

theorem Browses.isQuiet {action : Action} (h : action.Browses) : action.IsQuiet := by
  obtain h | ⟨a, b, -, rfl⟩ := h
  · exact h.isQuiet
  · exact id

theorem IsQuiet.registry_perform {action : Action} (h : action.IsQuiet) (r : Relay) :
    (action.perform r).2.registry = r.registry := by
  cases action <;> first | rfl | exact absurd h id

theorem IsQuiet.messages_perform {action : Action} (h : action.IsQuiet) (r : Relay) :
    (action.perform r).2.store.database.messages = r.store.database.messages := by
  cases action with
  | call c => exact Store.messages_of_call h
  | stamp wall => rfl
  | _ => exact absurd h id

end Action

namespace Activity

/-- The activity is bound to end with `a`, whatever its actions answer. -/
inductive EndsWith {α : Type} (a : α) : Activity α → Prop
  | done : EndsWith a (.done a)
  | act {action : Action} {next : action.Answer → Activity α}
      (hNext : ∀ answer, EndsWith a (next answer)) : EndsWith a (.act action next)

/-- What is left of a post whose message is stored: telling its audience, and ending with it. -/
def Saved (m : Message) (t : Activity (Except RelayError Message)) : Prop :=
  t.Always (fun action => action.IsRead ∨ action.Spreads m.frame) (· = .ok m)

/-- What is left of a post whose message is not stored: it ends with an error, unless it stores its
message, and has told nobody before. -/
inductive Unsaved (id : Uuid) : Activity (Except RelayError Message) → Prop
  | failed (e : RelayError) : Unsaved id (.done (.error e))
  | quiet {action : Action} {next : action.Answer → Activity (Except RelayError Message)}
      (hQuiet : action.IsQuiet) (hNext : ∀ answer, Unsaved id (next answer)) :
      Unsaved id (.act action next)
  | insert {m : Message} {next : Except Store.Error Unit → Activity (Except RelayError Message)}
      (hId : m.id = id) (hSaved : Saved m (next (.ok ())))
      (hFailed : ∀ cause, Unsaved id (next (.error cause))) :
      Unsaved id (.act (.call (.insertMessage (.ofMessage m))) next)

variable {id : Uuid}

theorem Saved.endsWith {m : Message} {t : Activity (Except RelayError Message)} (h : t.Saved m) :
    t.EndsWith (.ok m) := by
  induction t with
  | done result =>
    obtain rfl : result = .ok m := h
    exact .done
  | act action next ih => exact .act fun answer => ih answer (h.2 answer)

theorem Unsaved.bind {α : Type} {t : Activity α} {f : α → Activity (Except RelayError Message)}
    (h : t.Uses Action.IsQuiet) (hNext : ∀ a, Unsaved id (f a)) : Unsaved id (t >>= f) := by
  induction t with
  | done a => exact hNext a
  | act action next ih => exact .quiet h.1 fun answer => ih answer (h.2 answer)

end Activity

open Activity (Saved Unsaved)

theorem unsaved_bind {α : Type} {id : Uuid} {op : Operation α} {f : α → Operation Message}
    (h : Uses Action.IsQuiet op) (hNext : ∀ a, Unsaved id (f a).run) : Unsaved id (op >>= f).run := by
  refine Unsaved.bind h.run fun result => ?_
  cases result with
  | ok a => exact hNext a
  | error e => exact .failed e

theorem saved_broadcast (m : Message) :
    Saved m (do
      let _ ← Operation.attempt (broadcast m)
      return m : Operation Message).run := by
  rw [Operation.attempt, ExceptT.run_bind_lift]
  exact (Activity.always_bind _ _).2 (Activity.Always.mono (broadcast_uses m).run (fun _ => id)
    fun _ _ => rfl)

theorem append_unsaved (sender channel : String) (req : SendRequest) (fresh : Fresh)
    {f : Message → Operation Message} (hSaved : ∀ m, Saved m (f m).run) :
    Unsaved fresh.id (append sender channel req fresh >>= f).run := by
  unfold append
  rw [bind_assoc]
  refine unsaved_bind (.perform trivial) fun time => ?_
  rw [bind_assoc]
  exact .insert rfl (hSaved _) fun cause => .failed (.storage cause)

theorem post_unsaved (sender : String) (req : SendRequest) (fresh : Fresh) :
    Unsaved fresh.id (post sender req fresh).run := by
  refine unsaved_bind ((resolve_uses sender req.destination).mono fun _ h => h.isQuiet) fun channel => ?_
  refine unsaved_bind ((authorize_uses sender channel).mono fun _ h => h.isQuiet) fun kind => ?_
  exact append_unsaved sender channel req fresh saved_broadcast

/-! ### Posts at the same time -/

/-- A post on a task of its own: the id for its message, what is left to do, and whether its caller still
waits for it.  The task goes on without the caller. -/
structure Task where
  id : Uuid
  rest : Activity (Except RelayError Message)
  awaited : Bool := true

/-- What the caller of a post is told: the id that was meant for its message, and what has become of it. -/
structure Task.Told where
  id : Uuid
  result : Except RelayError Message

/-- A relay, the posts under way, what their callers were told, and the frames that were taken from queues. -/
structure Pool where
  relay : Relay
  tasks : List Task := []
  told : List Task.Told := []
  taken : List Frame := []

/-- The action is one of those that happen beside posts: connections come and go and are told of errors,
and the store is called for anything but storing a message. -/
def Action.IsBeside : Action → Prop
  | call c => ¬ c.IsInsert
  | stamp _ | register _ | unregister _ => True
  | sendTo _ text => ∃ f, text = Wire.encode (ServerFrame.error f)
  | offer .. | take _ => False

namespace Pool

/-- The stored messages. -/
def rows (p : Pool) : List MessageRow :=
  p.relay.store.database.messages

/-- The frame waits in a queue, is left in one that has ended, or was taken from one. -/
def Sent (p : Pool) (text : Frame) : Prop :=
  text ∈ p.taken ∨ (∃ entry ∈ p.relay.registry.clients, ∃ c ∈ entry.2, text ∈ c.outbox.frames) ∨
    ∃ entry ∈ p.relay.registry.ended, text ∈ entry.2.frames

/-- One step of a pool. -/
inductive Step : Pool → Pool → Prop
  /-- A post starts; the id for its message is new. -/
  | start (p : Pool) (sender : String) (req : SendRequest) (fresh : Fresh)
      (hTasks : ∀ t ∈ p.tasks, t.id ≠ fresh.id) (hRows : ∀ row ∈ p.rows, row.id ≠ fresh.id.toString) :
      Step p { p with tasks := p.tasks ++ [{ id := fresh.id, rest := (post sender req fresh).run }] }
  /-- A post performs its next action. -/
  | perform (p : Pool) {before after : List Task} {t : Task} {action : Action}
      {next : action.Answer → Activity (Except RelayError Message)}
      (hTasks : p.tasks = before ++ t :: after) (hRest : t.rest = .act action next) :
      Step p { p with
        relay := (action.perform p.relay).2
        tasks := before ++ { t with rest := next (action.perform p.relay).1 } :: after }
  /-- The next action of a post is a call on the store, and the call fails. -/
  | fail (p : Pool) {before after : List Task} {t : Task} {c : Store.Call}
      {next : Except Store.Error c.Answer → Activity (Except RelayError Message)}
      (hTasks : p.tasks = before ++ t :: after) (hRest : t.rest = .act (.call c) next)
      (cause : Store.Error) :
      Step p { p with tasks := before ++ { t with rest := next (.error cause) } :: after }
  /-- The caller of a post is aborted. -/
  | abandon (p : Pool) {before after : List Task} {t : Task} (hTasks : p.tasks = before ++ t :: after) :
      Step p { p with tasks := before ++ { t with awaited := false } :: after }
  /-- A post has ended, and its caller, which still waits, is told how. -/
  | tell (p : Pool) {before after : List Task} {t : Task} {result : Except RelayError Message}
      (hTasks : p.tasks = before ++ t :: after) (hAwaited : t.awaited) (hRest : t.rest = .done result) :
      Step p { p with
        tasks := before ++ { t with awaited := false } :: after
        told := p.told ++ [⟨t.id, result⟩] }
  /-- Something happens beside the posts. -/
  | beside (p : Pool) {action : Action} (h : action.IsBeside) :
      Step p { p with relay := (action.perform p.relay).2 }
  /-- A queue is read. -/
  | take (p : Pool) (id : ConnectionId) :
      Step p { p with
        relay := ((Action.take id).perform p.relay).2
        taken := p.taken ++ (p.relay.registry.take id).1.frames }
  /-- The reading end of a queue is dropped. -/
  | dropReader (p : Pool) (id : ConnectionId) :
      Step p { p with relay := { p.relay with registry := p.relay.registry.dropReader id } }

end Pool

/-! ### The invariant -/

/-- The frame is an error, or that of a stored message. -/
def IsBacked (rows : List MessageRow) (text : Frame) : Prop :=
  (∃ f, text = Wire.encode (ServerFrame.error f)) ∨
    ∃ m : Message, text = m.frame ∧ MessageRow.ofMessage m ∈ rows

/-- So is each of these frames. -/
def AllBacked (rows : List MessageRow) (frames : List Frame) : Prop :=
  ∀ text ∈ frames, IsBacked rows text

theorem IsBacked.append {rows : List MessageRow} {text : Frame} (h : IsBacked rows text)
    (more : List MessageRow) : IsBacked (rows ++ more) text :=
  h.imp_right fun ⟨m, hText, hRow⟩ => ⟨m, hText, List.mem_append_left _ hRow⟩

theorem AllBacked.append {rows : List MessageRow} {frames : List Frame} (h : AllBacked rows frames)
    (more : List MessageRow) : AllBacked (rows ++ more) frames :=
  fun text hText => (h text hText).append more

theorem AllBacked.push {rows : List MessageRow} {frames : List Frame} {text : Frame}
    (h : AllBacked rows frames) (hText : IsBacked rows text) : AllBacked rows (frames ++ [text]) := by
  intro other hOther
  rcases List.mem_append.1 hOther with hOther | hOther
  · exact h other hOther
  · exact List.mem_singleton.1 hOther ▸ hText

theorem allBacked_nil (rows : List MessageRow) : AllBacked rows [] :=
  fun _ hText => absurd hText List.not_mem_nil

/-- The message of a post is not stored and nobody is told of it, or it is stored, in one row, and the
post ends with it. -/
inductive Task.Good (rows : List MessageRow) (t : Task) : Prop
  | unsaved (hRest : t.rest.Unsaved t.id) (hRows : ∀ row ∈ rows, row.id ≠ t.id.toString)
  | saved (m : Message) (hId : m.id = t.id) (hRow : MessageRow.ofMessage m ∈ rows)
      (hOnly : ∀ row ∈ rows, row.id = t.id.toString → row = .ofMessage m) (hRest : t.rest.Saved m)

/-- What a caller was told is so: the message is stored, or nothing is. -/
def Task.Told.Good (rows : List MessageRow) (a : Task.Told) : Prop :=
  match a.result with
  | .ok m => m.id = a.id ∧ MessageRow.ofMessage m ∈ rows
  | .error _ => ∀ row ∈ rows, row.id ≠ a.id.toString

theorem Task.Good.told {rows : List MessageRow} {t : Task} {result : Except RelayError Message}
    (h : t.Good rows) (hRest : t.rest = .done result) : Task.Told.Good rows ⟨t.id, result⟩ := by
  cases h with
  | unsaved hUnsaved hRows =>
    rw [hRest] at hUnsaved
    cases hUnsaved
    exact hRows
  | saved m hId hRow hOnly hSaved =>
    rw [hRest] at hSaved
    obtain rfl : result = .ok m := hSaved
    exact ⟨hId, hRow⟩

theorem Task.Good.append {rows more : List MessageRow} {t : Task} (h : t.Good rows)
    (hMore : ∀ row ∈ more, row.id ≠ t.id.toString) : t.Good (rows ++ more) := by
  cases h with
  | unsaved hRest hRows =>
    exact .unsaved hRest fun row hRow => (List.mem_append.1 hRow).elim (hRows row) (hMore row)
  | saved m hId hRow hOnly hRest =>
    refine .saved m hId (List.mem_append_left _ hRow) (fun row hMem hSame => ?_) hRest
    rcases List.mem_append.1 hMem with hMem | hMem
    · exact hOnly row hMem hSame
    · exact absurd hSame (hMore row hMem)

namespace Pool

/-- What holds of a pool at any time. -/
structure Good (p : Pool) : Prop where
  ids : (p.tasks.map (·.id)).Nodup
  tasks : ∀ t ∈ p.tasks, t.Good p.rows
  queued : p.relay.registry.Everywhere (AllBacked p.rows)
  taken : AllBacked p.rows p.taken
  /-- A post that has told its caller has ended. -/
  told : ∀ a ∈ p.told, ∃ t ∈ p.tasks, t.id = a.id ∧ t.rest = .done a.result

variable {p p' : Pool}

/-- A step of one post that adds `more` to the rows, all with the id of its message. -/
theorem Good.replace (h : p.Good) {before after : List Task} {t : Task}
    (hTasks : p.tasks = before ++ t :: after) {rest : Activity (Except RelayError Message)}
    {awaited : Bool} {relay : Relay} {more : List MessageRow}
    (hDone : ∀ result, t.rest = .done result → rest = .done result)
    (hRows : relay.store.database.messages = p.rows ++ more)
    (hMore : ∀ row ∈ more, row.id = t.id.toString)
    (hQueued : relay.registry.Everywhere (AllBacked (p.rows ++ more)))
    (hGood : Task.Good (p.rows ++ more) { t with rest, awaited }) :
    Good { p with relay, tasks := before ++ { t with rest, awaited } :: after } := by
  have hIds := h.ids
  rw [hTasks, List.map_append, List.map_cons] at hIds
  have hSame : Pool.rows { p with relay, tasks := before ++ { t with rest, awaited } :: after } =
      p.rows ++ more := hRows
  have hOther : ∀ u ∈ before ++ after, u.Good (p.rows ++ more) := by
    intro u hu
    have hNe : u.id ≠ t.id := by
      rw [List.nodup_middle, List.nodup_cons, ← List.map_append] at hIds
      exact fun hId => hIds.1 (hId ▸ List.mem_map_of_mem hu)
    have hOld : u ∈ p.tasks := by
      rw [hTasks, List.mem_append, List.mem_cons]
      exact (List.mem_append.1 hu).imp_right .inr
    refine (h.tasks u hOld).append fun row hRow hId => hNe ?_
    exact Uuid.toString_injective (hId.symm.trans (hMore row hRow))
  refine ⟨?_, fun u hu => ?_, ?_, ?_, fun a ha => ?_⟩
  · rw [List.map_append, List.map_cons]
    exact hIds
  · rw [hSame]
    rcases List.mem_append.1 hu with hu | hu
    · exact hOther u (List.mem_append_left _ hu)
    rcases List.mem_cons.1 hu with rfl | hu
    · exact hGood
    · exact hOther u (List.mem_append_right _ hu)
  · rw [hSame]
    exact hQueued
  · rw [hSame]
    exact h.taken.append more
  · obtain ⟨u, hu, hId, hEnd⟩ := h.told a ha
    simp only [hTasks, List.mem_append, List.mem_cons] at hu ⊢
    rcases hu with hu | rfl | hu
    · exact ⟨u, .inl hu, hId, hEnd⟩
    · exact ⟨_, .inr (.inl rfl), hId, hDone _ hEnd⟩
    · exact ⟨u, .inr (.inr hu), hId, hEnd⟩

theorem Good.replace_quiet (h : p.Good) {before after : List Task} {t : Task}
    (hTasks : p.tasks = before ++ t :: after) {rest : Activity (Except RelayError Message)}
    {awaited : Bool} {relay : Relay} (hDone : ∀ result, t.rest = .done result → rest = .done result)
    (hRows : relay.store.database.messages = p.rows)
    (hQueued : relay.registry.Everywhere (AllBacked p.rows))
    (hGood : Task.Good p.rows { t with rest, awaited }) :
    Good { p with relay, tasks := before ++ { t with rest, awaited } :: after } := by
  have hNoMore : relay.store.database.messages = p.rows ++ [] := by rw [hRows, List.append_nil]
  refine h.replace hTasks hDone hNoMore (by simp) ?_ ?_
  · rwa [List.append_nil]
  · rwa [List.append_nil]

theorem Good.of_beside (h : p.Good) {relay : Relay} {taken : List Frame}
    (hRows : relay.store.database.messages = p.rows) (hQueued : relay.registry.Everywhere (AllBacked p.rows))
    (hTaken : AllBacked p.rows taken) : Good { p with relay, taken } := by
  have hSame : Pool.rows { p with relay, taken } = p.rows := hRows
  refine ⟨h.ids, ?_, ?_, ?_, h.told⟩
  · rw [hSame]
    exact h.tasks
  · rw [hSame]
    exact hQueued
  · rw [hSame]
    exact hTaken

theorem Good.beside (h : p.Good) {action : Action} (hBeside : action.IsBeside) :
    Good { p with relay := (action.perform p.relay).2 } := by
  cases action with
  | call c => exact h.of_beside (Store.messages_of_call hBeside) h.queued h.taken
  | stamp wall => exact h.of_beside rfl h.queued h.taken
  | sendTo id text =>
    exact h.of_beside rfl (h.queued.sendTo id fun _ hAll _ => hAll.push (.inl hBeside)) h.taken
  | register id => exact h.of_beside rfl (h.queued.register (allBacked_nil _) id) h.taken
  | unregister id => exact h.of_beside rfl (h.queued.unregister id) h.taken
  | offer audience frame => exact False.elim hBeside
  | take id => exact False.elim hBeside

theorem Good.perform_saved (h : p.Good) {before after : List Task} {t : Task} {action : Action}
    {next : action.Answer → Activity (Except RelayError Message)}
    (hTasks : p.tasks = before ++ t :: after)
    (hDone : ∀ result, t.rest = .done result → next (action.perform p.relay).1 = .done result)
    {m : Message} (hId : m.id = t.id)
    (hRow : MessageRow.ofMessage m ∈ p.rows)
    (hOnly : ∀ row ∈ p.rows, row.id = t.id.toString → row = .ofMessage m)
    (hRest : Saved m (.act action next)) :
    Good { p with
      relay := (action.perform p.relay).2
      tasks := before ++ { t with rest := next (action.perform p.relay).1 } :: after } := by
  refine h.replace_quiet hTasks hDone ?_ ?_ (.saved m hId hRow hOnly (hRest.2 _))
  · obtain hRead | hSpreads := hRest.1
    · rw [Action.perform_of_isRead hRead]
      rfl
    · rw [Action.store_perform_of_onRegistry hSpreads.onRegistry]
      rfl
  · obtain hRead | hSpreads := hRest.1
    · rw [Action.perform_of_isRead hRead]
      exact h.queued
    · cases action with
      | offer audience text =>
        obtain rfl : text = m.frame := hSpreads
        exact h.queued.offer audience fun _ hAll _ => hAll.push (.inr ⟨m, rfl, hRow⟩)
      | unregister id => exact h.queued.unregister id
      | _ => exact False.elim hSpreads

theorem Good.perform_unsaved (h : p.Good) {before after : List Task} {t : Task} {action : Action}
    {next : action.Answer → Activity (Except RelayError Message)}
    (hTasks : p.tasks = before ++ t :: after)
    (hDone : ∀ result, t.rest = .done result → next (action.perform p.relay).1 = .done result)
    (hRest : Unsaved t.id (.act action next)) (hRows : ∀ row ∈ p.rows, row.id ≠ t.id.toString) :
    Good { p with
      relay := (action.perform p.relay).2
      tasks := before ++ { t with rest := next (action.perform p.relay).1 } :: after } := by
  cases hRest with
  | quiet hQuiet hNext =>
    refine h.replace_quiet hTasks hDone (hQuiet.messages_perform _) ?_ (.unsaved (hNext _) hRows)
    rw [hQuiet.registry_perform]
    exact h.queued
  | insert hId hSaved hFailed =>
    rename_i m next
    have hRow : (MessageRow.ofMessage m).id = t.id.toString := congrArg Uuid.toString hId
    obtain ⟨hStored, hMessages⟩ | ⟨cause, hFail⟩ :=
      Store.call_insertMessage p.relay.store (.ofMessage m)
    · have hAnswer : ((Action.call (.insertMessage (.ofMessage m))).perform p.relay).1 = .ok () :=
        hStored
      rw [hAnswer] at hDone ⊢
      refine h.replace hTasks hDone hMessages (by simpa using hRow) (h.queued.mono fun _ h => h.append _) ?_
      refine .saved m hId (by simp) (fun row hMem hSame => ?_) hSaved
      rcases List.mem_append.1 hMem with hMem | hMem
      · exact absurd hSame (hRows row hMem)
      · exact List.mem_singleton.1 hMem
    · have hPerform : (Action.call (.insertMessage (.ofMessage m))).perform p.relay =
          (.error cause, p.relay) := by
        rw [Action.perform, hFail]
      rw [hPerform] at hDone ⊢
      exact h.replace_quiet hTasks hDone rfl h.queued (.unsaved (hFailed cause) hRows)

theorem Good.start (h : p.Good) (sender : String) (req : SendRequest) {fresh : Fresh}
    (hTasks : ∀ t ∈ p.tasks, t.id ≠ fresh.id) (hRows : ∀ row ∈ p.rows, row.id ≠ fresh.id.toString) :
    Good { p with tasks := p.tasks ++ [{ id := fresh.id, rest := (post sender req fresh).run }] } := by
  refine ⟨?_, fun t ht => ?_, h.queued, h.taken, fun a ha => ?_⟩
  · rw [List.map_append, List.map_singleton, ← List.concat_eq_append]
    refine List.Nodup.concat (fun hMem => ?_) h.ids
    obtain ⟨t, ht, hSame⟩ := List.mem_map.1 hMem
    exact hTasks t ht hSame
  · rcases List.mem_append.1 ht with ht | ht
    · exact h.tasks t ht
    · obtain rfl := List.mem_singleton.1 ht
      exact .unsaved (post_unsaved sender req fresh) hRows
  · obtain ⟨t, ht, hTold⟩ := h.told a ha
    exact ⟨t, List.mem_append_left _ ht, hTold⟩

/-- To tell the caller of a post, or to abort it, changes nothing else. -/
theorem Good.let_go (h : p.Good) {before after : List Task} {t : Task}
    (hTasks : p.tasks = before ++ t :: after) :
    Good { p with tasks := before ++ { t with awaited := false } :: after } := by
  refine h.replace_quiet hTasks (fun _ => id) rfl h.queued ?_
  cases h.tasks t (hTasks ▸ List.mem_append_right _ List.mem_cons_self) with
  | unsaved hUnsaved hRows => exact .unsaved hUnsaved hRows
  | saved m hId hRow hOnly hSaved => exact .saved m hId hRow hOnly hSaved

theorem Good.tell (h : p.Good) {before after : List Task} {t : Task} {result : Except RelayError Message}
    (hTasks : p.tasks = before ++ t :: after) (hRest : t.rest = .done result) :
    Good { p with
      tasks := before ++ { t with awaited := false } :: after
      told := p.told ++ [⟨t.id, result⟩] } := by
  obtain ⟨hIds, hGood, hQueued, hTaken, hTold⟩ := h.let_go hTasks
  refine ⟨hIds, hGood, hQueued, hTaken, fun a ha => ?_⟩
  rcases List.mem_append.1 ha with ha | ha
  · exact hTold a ha
  · obtain rfl := List.mem_singleton.1 ha
    exact ⟨_, List.mem_append_right _ List.mem_cons_self, rfl, hRest⟩

theorem Good.step (h : p.Good) (hStep : Step p p') : p'.Good := by
  cases hStep with
  | start sender req fresh hTasks hRows => exact h.start sender req hTasks hRows
  | perform hTasks hRest =>
    rename_i before after t action next
    have hGoesOn : ∀ result, t.rest ≠ .done result := fun _ hEnd => nomatch hRest.symm.trans hEnd
    have hDone : ∀ result, t.rest = .done result → next (action.perform p.relay).1 = .done result :=
      fun result hEnd => absurd hEnd (hGoesOn result)
    cases h.tasks t (hTasks ▸ List.mem_append_right _ List.mem_cons_self) with
    | unsaved hUnsaved hRows => exact h.perform_unsaved hTasks hDone (hRest ▸ hUnsaved) hRows
    | saved m hId hRow hOnly hSaved =>
      exact h.perform_saved hTasks hDone hId hRow hOnly (hRest ▸ hSaved)
  | fail hTasks hRest cause =>
    rename_i before after t c next
    have hGoesOn : ∀ result, t.rest ≠ .done result := fun _ hEnd => nomatch hRest.symm.trans hEnd
    refine h.replace_quiet hTasks (fun result hEnd => absurd hEnd (hGoesOn result)) rfl h.queued ?_
    cases h.tasks t (hTasks ▸ List.mem_append_right _ List.mem_cons_self) with
    | unsaved hUnsaved hRows =>
      refine .unsaved ?_ hRows
      rw [hRest] at hUnsaved
      cases hUnsaved with
      | quiet hQuiet hNext => exact hNext _
      | insert hId hSaved hFailed => exact hFailed cause
    | saved m hId hRow hOnly hSaved =>
      rw [hRest] at hSaved
      exact .saved m hId hRow hOnly (hSaved.2 _)
  | abandon hTasks => exact h.let_go hTasks
  | tell hTasks hAwaited hRest => exact h.tell hTasks hRest
  | beside hBeside => exact h.beside hBeside
  | take id =>
    obtain ⟨hQueued, hTaken⟩ := h.queued.take
      (fun _ _ hAll text hText => hAll text (List.mem_cons_of_mem _ hText)) id
    refine h.of_beside rfl hQueued fun text hText => ?_
    rcases List.mem_append.1 hText with hText | hText
    · exact h.taken text hText
    · obtain ⟨rest, hAll⟩ := hTaken text hText
      exact hAll text List.mem_cons_self
  | dropReader id => exact h.of_beside rfl (h.queued.dropReader (allBacked_nil _) id) h.taken

theorem Good.run (h : p.Good) (hRun : Relation.ReflTransGen Step p p') : p'.Good := by
  induction hRun with
  | refl => exact h
  | tail _ hStep ih => exact ih.step hStep

theorem Good.sent (h : p.Good) {text : Frame} (hSent : p.Sent text) : IsBacked p.rows text := by
  obtain hTaken | ⟨entry, hEntry, c, hc, hText⟩ | ⟨entry, hEntry, hText⟩ := hSent
  · exact h.taken text hTaken
  · exact h.queued.live entry hEntry c hc text hText
  · exact h.queued.ended entry hEntry text hText

/-- Messages are stored before anybody is told of them.  Start with any store, nobody connected and no
post under way, and let posts run at the same time, calls on the store fail, callers be aborted and
connections come and go.  Then at any time
* every frame that waits in a queue, is left in one that has ended or was taken from one is an error, or is
  read as a message that is stored with all that it says;
* a post that has ended with an error has stored nothing and told nobody;
* a post that has stored its message is bound to end with that message;
* what the callers that were not aborted have been told is so. -/
theorem persist_before_broadcast {start : Pool} (hTasks : start.tasks = []) (hTold : start.told = [])
    (hTaken : start.taken = []) (hNobody : start.relay.registry.clients = [])
    (hNothing : start.relay.registry.ended = []) (hRun : Relation.ReflTransGen Step start p) :
    (∀ text, p.Sent text → (∃ f, text = Wire.encode (ServerFrame.error f)) ∨
      ∃ m, text.message? = some m ∧ MessageRow.ofMessage m ∈ p.rows) ∧
    (∀ t ∈ p.tasks, ∀ e, t.rest = .done (.error e) →
      (∀ row ∈ p.rows, row.id ≠ t.id.toString) ∧
        ∀ text, p.Sent text → ∀ m, text.message? = some m → m.id ≠ t.id) ∧
    (∀ t ∈ p.tasks, ∀ row ∈ p.rows, row.id = t.id.toString →
      ∃ m, row = .ofMessage m ∧ t.rest.EndsWith (.ok m)) ∧
    ∀ a ∈ p.told, a.Good p.rows := by
  have hStart : start.Good := by
    refine ⟨?_, ?_, .of_nil hNobody hNothing, ?_, ?_⟩
    · rw [hTasks]
      exact List.nodup_nil
    · simp [hTasks]
    · rw [hTaken]
      exact allBacked_nil _
    · simp [hTold]
  have h := hStart.run hRun
  refine ⟨fun text hSent => ?_, fun t ht e hEnd => ?_, fun t ht row hRow hSame => ?_, fun a ha => ?_⟩
  · obtain hError | ⟨m, rfl, hRow⟩ := h.sent hSent
    · exact .inl hError
    · exact .inr ⟨m, m.message?_frame, hRow⟩
  · have hNoRow : ∀ row ∈ p.rows, row.id ≠ t.id.toString := by
      cases h.tasks t ht with
      | unsaved hRest hRows => exact hRows
      | saved m hId hRow hOnly hRest =>
        rw [hEnd] at hRest
        cases hRest
    refine ⟨hNoRow, fun text hSent m hRead hId => ?_⟩
    obtain ⟨f, rfl⟩ | ⟨m', rfl, hRow⟩ := h.sent hSent
    · rw [Frame.message?_encode_error] at hRead
      contradiction
    · obtain rfl : m' = m := by simpa [m'.message?_frame] using hRead
      exact hNoRow _ hRow (congrArg Uuid.toString hId)
  · cases h.tasks t ht with
    | unsaved hRest hRows => exact absurd hSame (hRows row hRow)
    | saved m hId hStored hOnly hRest => exact ⟨m, hOnly row hRow hSame, hRest.endsWith⟩
  · obtain ⟨t, ht, hId, hEnd⟩ := h.told a ha
    have hGood := (h.tasks t ht).told hEnd
    rwa [hId] at hGood

/-- A post whose caller is aborted as soon as it has started.  Its message is stored and told, and is left in
the queue of a connection that goes without having read it; nobody is told how the post has ended. -/
theorem persist_before_broadcast_abandoned :
    ∃ p : Pool, Relation.ReflTransGen Step { relay := .ofDatabase .fresh 1 } p ∧
      p.Sent (Message.frame ⟨.zero, "general", "bob", 5, .text, [1], [], []⟩) ∧
      p.relay.registry.clients = [] ∧ p.told = [] ∧
      (∀ text, p.Sent text → (∃ f, text = Wire.encode (ServerFrame.error f)) ∨
        ∃ m, text.message? = some m ∧ MessageRow.ofMessage m ∈ p.rows) ∧
      (∀ t ∈ p.tasks, ∀ e, t.rest = .done (.error e) →
        (∀ row ∈ p.rows, row.id ≠ t.id.toString) ∧
          ∀ text, p.Sent text → ∀ m, text.message? = some m → m.id ≠ t.id) ∧
      (∀ t ∈ p.tasks, ∀ row ∈ p.rows, row.id = t.id.toString →
        ∃ m, row = .ofMessage m ∧ t.rest.EndsWith (.ok m)) ∧
      ∀ a ∈ p.told, a.Good p.rows := by
  have hRun := ((((((((((Relation.ReflTransGen.refl (r := Step)
    (a := { relay := .ofDatabase .fresh 1 })).tail
    (@Step.beside _ (.register ⟨"ann", .zero⟩) trivial)).tail
    (.start _ "bob" ⟨"general", [1], [], [], .text⟩ ⟨.zero, 5⟩ (by simp) (by decide))).tail
    (@Step.abandon _ [] [] _ rfl)).tail
    (@Step.perform _ [] [] _ _ _ rfl rfl)).tail
    (@Step.perform _ [] [] _ _ _ rfl rfl)).tail
    (@Step.perform _ [] [] _ _ _ rfl rfl)).tail
    (@Step.perform _ [] [] _ _ _ rfl rfl)).tail
    (@Step.perform _ [] [] _ _ _ rfl rfl)).tail
    (@Step.perform _ [] [] _ _ _ rfl rfl)).tail
    (@Step.beside _ (.unregister ⟨"ann", .zero⟩) trivial)
  refine ⟨_, hRun, ?_, rfl, rfl, persist_before_broadcast rfl rfl rfl rfl rfl hRun⟩
  exact .inr (.inr ⟨_, List.mem_cons_self, List.mem_cons_self⟩)

end Pool

end ChatRelay
