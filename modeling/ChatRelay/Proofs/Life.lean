import ChatRelay.Connection
import ChatRelay.Proofs.Departure

/-! The life of a live connection, amid everything else that goes on.  After its registration it has a reader,
which handles one frame after another, and a writer, which empties its queue and asks for heartbeats; both go on
side by side until one of them ends, which makes an end of the other, and then the registration is ended.
A post that the reader starts is an activity of its own, which the reader waits for.  A `Session` is a life in
which the reader and the writer do one thing after another (`Life.Shows.exists_run`). -/

namespace ChatRelay

open Registry (Reading)

/-! ### A connection's own steps -/

/-- What is left of the handling of a frame when its post has returned. -/
def afterPost (acks : Bool) (id : ConnectionId) (k : Posting) : Except RelayError Message → Activity Unit
  | .ok _ => return
  | .error e => if acks then sendError id e.code (some k.req.destination) else return

theorem handleFrame_of_decode {raw : List UInt8} {req : SendRequest} (h : Wire.decode? raw = some req)
    (acks : Bool) (id : ConnectionId) (fresh : Fresh) :
    handleFrame acks id raw fresh =
      Posting.activity ⟨id.user, req, fresh⟩ >>= afterPost acks id ⟨id.user, req, fresh⟩ := by
  unfold handleFrame
  rw [h]
  refine congrArg (Posting.activity ⟨id.user, req, fresh⟩ >>= ·) (funext fun result => ?_)
  cases result <;> rfl

/-- What a session does with what it reads from its queue. -/
def Session.afterReading (s : Session) : Reading → Activity (Session × Option Outbound)
  | .frame text => return (s, some (.frame text))
  | .nothing => return (s, none)
  | .ended => return (← s.finish, none)

theorem Session.release_of_running (s s' : Session) (h : s'.running) (r : Relay) :
    s.release s' r = r :=
  if_neg fun hEnds => hEnds.2 h

theorem Session.release_of_ended {s s' : Session} (h : s.running) (hEnds : s'.running = false) (r : Relay) :
    s.release s' r = { r with registry := r.registry.dropReader s.id } :=
  if_pos ⟨h, by simp [hEnds]⟩

theorem Session.react_writable_run (s : Session) (acks : Bool) (r : Relay) :
    (s.react acks .writable).run r =
      (s.afterReading (r.registry.take s.id).1).run ((Action.take s.id).perform r).2 :=
  rfl

namespace Life

/-- How far the connection has got: it could not be registered, or its registration was the last thing that
it ended. -/
inductive Stage where
  | opening
  | live
  | failed
  | returned
  deriving DecidableEq

inductive Reader where
  | looping
  /-- It waits for the post with this number. -/
  | posting (n : Nat)
  /-- It handles a frame that is not posted, or not any more. -/
  | telling (rest : Activity Unit)
  | stopped

inductive Writer where
  | looping
  /-- It has left its loop, and its queue is still there. -/
  | closing
  | stopped
  deriving DecidableEq

end Life

/-- A connection amid the activities that are under way. -/
structure Life extends Throng Posting (Except RelayError Message) where
  id : ConnectionId
  acks : Bool
  stage : Life.Stage := .opening
  reader : Life.Reader := .looping
  writer : Life.Writer := .looping
  heartbeat : Heartbeat := {}

/-- What happens in the life of a connection. -/
inductive Happening where
  /-- Something that the connection does not do itself: a post goes on, or others act. -/
  | beside
  /-- The connection is registered, if there can be a queue for it. -/
  | opens
  /-- Something arrives from the client. -/
  | arrives (what : Inbound)
  /-- The reader goes on with the frame that it handles. -/
  | handles
  /-- The writer takes what is next in the queue. -/
  | writes (reading : Reading)
  | writeFails
  /-- The heartbeat ticks, and the client is asked again or given up. -/
  | ticks (alive : Bool)
  /-- The writer, which has left its loop, drops the queue. -/
  | closes
  /-- One of the loops is over, and makes an end of the other. -/
  | aborts
  /-- Both are over, and the registration is ended. -/
  | returns

/-- What goes out to the client. -/
def Happening.written : Happening → List Outbound
  | writes (.frame text) => [.frame text]
  | ticks true => [.ping]
  | _ => []

namespace Life

def perform (l : Life) (action : Action) : Life :=
  { l with
    relay := (action.perform l.relay).2
    log := l.log ++ [⟨none, l.relay, action.performed l.relay, (action.perform l.relay).2⟩] }

theorem past_perform (l : Life) (action : Action) :
    (l.perform action).past = l.past ++ [action.performed l.relay] :=
  List.map_append

def dropQueue (l : Life) : Life :=
  { l with relay.registry := l.relay.registry.dropReader l.id }

/-- One thing that happens. -/
inductive Step (l : Life) : Happening → Life → Prop
  | beside {p : Throng Posting (Except RelayError Message)}
      (hBeside : Throng.Step Posting.activity l.toThrong p) : Step l .beside { l with toThrong := p }
  | opens (hStage : l.stage = .opening) :
      Step l .opens { l.perform (.register l.id) with
        stage := if (l.relay.registry.register l.id).1 then .live else .failed }
  | malformed {raw : List UInt8} (fresh : Fresh) (hStage : l.stage = .live)
      (hReader : l.reader = .looping) (hRaw : (Wire.decode? raw : Option SendRequest) = none) :
      Step l (.arrives (.frame raw fresh))
        { l with reader := .telling (handleFrame l.acks l.id raw fresh) }
  | posts {raw : List UInt8} {req : SendRequest} (fresh : Fresh) (hStage : l.stage = .live)
      (hReader : l.reader = .looping) (hRaw : Wire.decode? raw = some req) :
      Step l (.arrives (.frame raw fresh)) { l with
        strands := l.strands ++
          [⟨⟨l.id.user, req, fresh⟩, Posting.activity ⟨l.id.user, req, fresh⟩, []⟩]
        reader := .posting l.strands.length }
  | pinged (hStage : l.stage = .live) (hReader : l.reader = .looping) :
      Step l (.arrives .ping) l
  | ponged (hStage : l.stage = .live) (hReader : l.reader = .looping) :
      Step l (.arrives .pong) { l with heartbeat := l.heartbeat.answer }
  | ended (hStage : l.stage = .live) (hReader : l.reader = .looping) :
      Step l (.arrives .ended) { l with reader := .stopped }
  | posted {n : Nat} {t : Strand Posting (Except RelayError Message)}
      {result : Except RelayError Message} (hReader : l.reader = .posting n)
      (hStrand : l.strands[n]? = some t) (hRest : t.rest = .done result) :
      Step l .handles { l with reader := .telling (afterPost l.acks l.id t.label result) }
  | tells {action : Action} {next : action.Answer → Activity Unit}
      (hReader : l.reader = .telling (.act action next)) :
      Step l .handles { l.perform action with reader := .telling (next (action.perform l.relay).1) }
  | told (hReader : l.reader = .telling (.done ())) :
      Step l .handles { l with reader := .looping }
  | writes (hStage : l.stage = .live) (hWriter : l.writer = .looping) :
      Step l (.writes (l.relay.registry.take l.id).1) { l.perform (.take l.id) with
        writer := if (l.relay.registry.take l.id).1 = .ended then .closing else .looping }
  | writeFails (hStage : l.stage = .live) (hWriter : l.writer = .looping) :
      Step l .writeFails { l with writer := .closing }
  | ticks {heartbeat : Heartbeat} (hStage : l.stage = .live) (hWriter : l.writer = .looping)
      (hTick : l.heartbeat.tick? = some heartbeat) : Step l (.ticks true) { l with heartbeat }
  | expires (hStage : l.stage = .live) (hWriter : l.writer = .looping)
      (hTick : l.heartbeat.tick? = none) : Step l (.ticks false) { l with writer := .closing }
  | closes (hWriter : l.writer = .closing) :
      Step l .closes { l.dropQueue with writer := .stopped }
  | abortsReader (hStage : l.stage = .live) (hWriter : l.writer = .stopped) :
      Step l .aborts { l with reader := .stopped }
  | abortsWriter (hStage : l.stage = .live) (hReader : l.reader = .stopped) :
      Step l .aborts { l.dropQueue with writer := .stopped }
  | returns (hStage : l.stage = .live) (hReader : l.reader = .stopped)
      (hWriter : l.writer = .stopped) :
      Step l .returns { l.perform (.unregister l.id) with stage := .returned }

/-- What can come about, by one thing after another. -/
inductive Run (l : Life) : List Happening → Life → Prop
  | refl : Run l [] l
  | tail {before : List Happening} {h : Happening} {l' l'' : Life} (hRun : Run l before l')
      (hStep : Step l' h l'') : Run l (before ++ [h]) l''

variable {l l' l'' : Life} {hs hs' : List Happening} {h : Happening}

theorem Run.trans (hRun : Run l hs l') (hMore : Run l' hs' l'') : Run l (hs ++ hs') l'' := by
  induction hMore with
  | refl => exact (List.append_nil hs).symm ▸ hRun
  | tail _ hStep ih => exact List.append_assoc .. ▸ ih.tail hStep

theorem Step.run (hStep : Step l h l') : Run l [h] l' :=
  .tail .refl hStep

/-- Whatever happens is something that can happen to the activities under way. -/
theorem Step.throng (hStep : Step l h l') :
    Relation.ReflTransGen (Throng.Step Posting.activity) l.toThrong l'.toThrong := by
  cases hStep with
  | beside hBeside => exact .single hBeside
  | opens => exact .single (.others l.toThrong (.register l.id))
  | posts fresh => exact .single (.starts l.toThrong _)
  | tells => exact .single (.others l.toThrong _)
  | writes => exact .single (.others l.toThrong (.take l.id))
  | closes => exact .single (.dropsReader l.toThrong l.id)
  | abortsWriter => exact .single (.dropsReader l.toThrong l.id)
  | returns => exact .single (.others l.toThrong (.unregister l.id))
  | _ => exact .refl

theorem Step.id_eq (hStep : Step l h l') : l'.id = l.id := by
  cases hStep <;> rfl

theorem Run.throng (hRun : Run l hs l') :
    Relation.ReflTransGen (Throng.Step Posting.activity) l.toThrong l'.toThrong := by
  induction hRun with
  | refl => exact .refl
  | tail _ hStep ih => exact ih.trans hStep.throng

theorem Run.id_eq (hRun : Run l hs l') : l'.id = l.id := by
  induction hRun with
  | refl => rfl
  | tail _ hStep ih => exact hStep.id_eq.trans ih

/-! ### Sessions -/

/-- What can happen to the activities under way can happen in the life of the connection. -/
theorem exists_run_beside {p : Throng Posting (Except RelayError Message)}
    (hSteps : Relation.ReflTransGen (Throng.Step Posting.activity) l.toThrong p) :
    ∃ hs, Run l hs { l with toThrong := p } ∧ ∀ h ∈ hs, h = .beside := by
  induction hSteps with
  | refl => exact ⟨[], .refl, by simp⟩
  | tail _ hStep ih =>
    obtain ⟨hs, hRun, hAll⟩ := ih
    exact ⟨hs ++ [.beside], hRun.tail (.beside hStep), by simpa [or_imp, forall_and] using hAll⟩

/-- The rest of what the reader does for a frame, done alone. -/
theorem exists_run_telling {rest : Activity Unit} (hReader : l.reader = .telling rest) :
    ∃ (hs : List Happening) (p : Throng Posting (Except RelayError Message)),
      Run l hs { l with toThrong := p, reader := .looping } ∧ (∀ h ∈ hs, h = .handles) ∧
        p.relay = (rest.run l.relay).2 := by
  induction rest generalizing l with
  | done result => exact ⟨[.handles], l.toThrong, (Step.told hReader).run, by simp, rfl⟩
  | act action next ih =>
    obtain ⟨hs, p, hRun, hAll, hRelay⟩ := ih _
      (l := { l.perform action with reader := .telling (next (action.perform l.relay).1) }) rfl
    exact ⟨.handles :: hs, p, (Step.tells hReader).run.trans hRun, by simpa using hAll, hRelay⟩

/-- When one of the loops has ended, so does the other, the queue is dropped, and the registration ends. -/
theorem exists_run_returns (hStage : l.stage = .live)
    (hOver : l.reader = .stopped ∨ l.writer = .closing) :
    ∃ (hs : List Happening) (l' : Life), Run l hs l' ∧ (∀ h ∈ hs, h.written = []) ∧ l'.id = l.id ∧
      l'.acks = l.acks ∧ l'.heartbeat = l.heartbeat ∧ l'.stage = .returned ∧
        l'.relay = { l.relay with registry := (l.relay.registry.unregister l.id).2.dropReader l.id } := by
  have hRelay : ((Action.unregister l.id).perform l.dropQueue.relay).2 =
      { l.relay with registry := (l.relay.registry.unregister l.id).2.dropReader l.id } :=
    congrArg (fun registry => { l.relay with registry := registry })
      (Registry.unregister_dropReader l.relay.registry l.id)
  obtain hReader | hWriter := hOver
  · exact ⟨_, _, (Step.abortsWriter hStage hReader).run.tail (.returns hStage hReader rfl),
      by simp [Happening.written], rfl, rfl, rfl, rfl, hRelay⟩
  · exact ⟨_, _, ((Step.closes hWriter).run.tail (.abortsReader hStage rfl)).tail
      (.returns hStage rfl rfl), by simp [Happening.written], rfl, rfl, rfl, rfl, hRelay⟩

/-- What a session does with a frame is what the reader does: the post and then the rest, one after the
other. -/
theorem exists_run_frame (hStage : l.stage = .live) (hReader : l.reader = .looping) (raw : List UInt8)
    (fresh : Fresh) :
    ∃ (hs : List Happening) (p : Throng Posting (Except RelayError Message)),
      Run l hs { l with toThrong := p, reader := .looping } ∧ (∀ h ∈ hs, h.written = []) ∧
        p.relay = ((handleFrame l.acks l.id raw fresh).run l.relay).2 := by
  cases hRaw : (Wire.decode? raw : Option SendRequest) with
  | none =>
    have hStep := Step.malformed fresh hStage hReader hRaw
    obtain ⟨hs, p, hRun, hAll, hRelay⟩ := exists_run_telling (l := { l with
      reader := .telling (handleFrame l.acks l.id raw fresh) }) rfl
    refine ⟨_, p, hStep.run.trans hRun, fun h hh => ?_, hRelay⟩
    rcases List.mem_append.1 hh with hh | hh
    · rw [List.mem_singleton.1 hh]
      rfl
    · rw [hAll h hh]
      rfl
  | some req =>
    have hStep := Step.posts fresh hStage hReader hRaw
    generalize hPosting : (⟨l.id.user, req, fresh⟩ : Posting) = k at hStep
    obtain ⟨p, past, hSteps, hStrand, hRelay⟩ := Throng.exists_steps_done Posting.activity
      (p := { l.toThrong with strands := l.strands ++ [⟨k, k.activity, []⟩] })
      (List.getElem?_concat_length ..)
    obtain ⟨hs, hBeside, hAll⟩ := exists_run_beside (l := { l with
      strands := l.strands ++ [⟨k, k.activity, []⟩], reader := .posting l.strands.length }) hSteps
    have hPosted := Step.posted (l := { l with toThrong := p, reader := .posting l.strands.length })
      rfl hStrand rfl
    obtain ⟨hs', p', hRun, hAll', hRelay'⟩ := exists_run_telling (l := { l with
      toThrong := p, reader := .telling (afterPost l.acks l.id k (k.activity.run l.relay).1) }) rfl
    refine ⟨_, p', ((hStep.run.trans hBeside).tail hPosted).trans hRun, fun h hh => ?_, ?_⟩
    · simp only [List.mem_append, List.mem_singleton] at hh
      rcases hh with ((rfl | hh) | rfl) | hh
      · rfl
      · rw [hAll h hh]
        rfl
      · rfl
      · rw [hAll' h hh]
        rfl
    rw [hRelay', handleFrame_of_decode hRaw, Activity.run_bind, hPosting]
    exact congrArg (fun r => (Activity.run _ r).2) hRelay

/-- The connection is where the session is: both of its loops wait, or it is over. -/
structure Shows (l : Life) (acks : Bool) (s : Session) : Prop where
  id : l.id = s.id
  acks : l.acks = acks
  heartbeat : l.heartbeat = s.heartbeat
  running : s.running → l.stage = .live ∧ l.reader = .looping ∧ l.writer = .looping
  ended : s.running = false → l.stage = .failed ∨ l.stage = .returned

theorem Shows.of_running {s : Session} (hRuns : s.running) (hId : l.id = s.id)
    (hHeartbeat : l.heartbeat = s.heartbeat) (hStage : l.stage = .live) (hReader : l.reader = .looping)
    (hWriter : l.writer = .looping) : l.Shows l.acks s :=
  ⟨hId, rfl, hHeartbeat, fun _ => ⟨hStage, hReader, hWriter⟩, fun hOver => by simp [hRuns] at hOver⟩

/-- However a session ends, its registration is ended, its queue is dropped, and nothing else is done. -/
theorem exists_run_finish {l₁ : Life} {s : Session} (hRuns : s.running) (hBefore : Run l hs l₁)
    (hWritten : hs.flatMap Happening.written = []) (hId : l₁.id = s.id)
    (hHeartbeat : l₁.heartbeat = s.heartbeat) (hStage : l₁.stage = .live)
    (hOver : l₁.reader = .stopped ∨ l₁.writer = .closing) :
    ∃ hs l', Run l hs l' ∧ hs.flatMap Happening.written = [] ∧ l'.Shows l₁.acks (s.finish.run l₁.relay).1 ∧
      l'.relay = s.release (s.finish.run l₁.relay).1 (s.finish.run l₁.relay).2 := by
  obtain ⟨hs', l', hRun, hAll, hId', hAcks', hHeartbeat', hReturned, hRelay⟩ :=
    exists_run_returns hStage hOver
  have hQuiet : (hs ++ hs').flatMap Happening.written = [] := by
    rw [List.flatMap_append, hWritten, List.flatMap_eq_nil_iff.2 hAll]
    rfl
  refine ⟨hs ++ hs', l', hBefore.trans hRun, hQuiet, ⟨hId'.trans hId, hAcks', hHeartbeat'.trans hHeartbeat,
    (fun hOn => nomatch hOn), fun _ => .inr hReturned⟩, ?_⟩
  rw [hRelay, hId, Session.release_of_ended hRuns rfl]
  rfl

theorem exists_run_start (id : ConnectionId) (acks : Bool) (r : Relay) :
    ∃ hs l', Run { relay := r, id, acks } hs l' ∧ l'.Shows acks ((Session.start id).run r).1 ∧
      l'.relay = ((Session.start id).run r).2 := by
  refine ⟨_, _, (Step.opens rfl).run, ⟨rfl, rfl, rfl, fun hOn => ?_, fun hOff => ?_⟩, rfl⟩
  · exact ⟨if_pos hOn, rfl, rfl⟩
  · exact .inl (if_neg (ne_true_of_eq_false hOff))

/-- What a session does and writes on an event is something that can come about in the life of a
connection. -/
theorem Shows.exists_run {acks : Bool} {s : Session} (h : l.Shows acks s) (e : SessionEvent) :
    ∃ hs l', Run l hs l' ∧
      hs.flatMap Happening.written = (s.serve acks e l.relay).1.2.toList ∧
      l'.Shows acks (s.serve acks e l.relay).1.1 ∧ l'.relay = (s.serve acks e l.relay).2 := by
  by_cases hRuns : s.running
  swap
  · have hOver : (s.serve acks e l.relay) = ((s, none), l.relay) := by
      rw [Session.serve, Session.step, if_neg hRuns]
      exact congrArg _ (if_neg fun hEnds => hRuns hEnds.1)
    rw [hOver]
    exact ⟨[], l, .refl, rfl, h, rfl⟩
  obtain ⟨hStage, hReader, hWriter⟩ := h.running hRuns
  obtain rfl := h.acks
  rw [Session.serve, Session.step, if_pos hRuns]
  cases e with
  | arrival what =>
    cases what with
    | frame raw fresh =>
      obtain ⟨hs, p, hRun, hAll, hRelay⟩ := exists_run_frame hStage hReader raw fresh
      rw [Session.react, Activity.run_bind, ← h.id]
      exact ⟨hs, _, hRun, List.flatMap_eq_nil_iff.2 hAll,
        .of_running hRuns h.id h.heartbeat hStage rfl hWriter,
        hRelay.trans (s.release_of_running s hRuns _).symm⟩
    | ping =>
      exact ⟨_, _, (Step.pinged hStage hReader).run, rfl, h, (s.release_of_running s hRuns _).symm⟩
    | pong =>
      exact ⟨_, _, (Step.ponged hStage hReader).run, rfl,
        .of_running hRuns h.id (congrArg Heartbeat.answer h.heartbeat) hStage hReader hWriter,
        (s.release_of_running { s with heartbeat := s.heartbeat.answer } hRuns _).symm⟩
    | ended =>
      exact (exists_run_finish hRuns (Step.ended hStage hReader).run rfl h.id h.heartbeat hStage
        (.inl rfl) :)
  | writeFailed =>
    exact (exists_run_finish hRuns (Step.writeFails hStage hWriter).run rfl h.id h.heartbeat hStage
      (.inr rfl) :)
  | tick =>
    rw [Session.react, ← h.heartbeat]
    cases hTick : l.heartbeat.tick? with
    | some heartbeat =>
      exact ⟨_, _, (Step.ticks hStage hWriter hTick).run, rfl,
        .of_running hRuns h.id rfl hStage hReader hWriter,
        (s.release_of_running { s with heartbeat } hRuns _).symm⟩
    | none =>
      exact (exists_run_finish hRuns (Step.expires hStage hWriter hTick).run rfl h.id h.heartbeat hStage
        (.inr rfl) :)
  | writable =>
    have hStep := (Step.writes hStage hWriter).run
    rw [Session.react_writable_run, ← h.id]
    cases hTake : (l.relay.registry.take l.id).1 with
    | ended =>
      exact exists_run_finish hRuns hStep (by rw [hTake]; rfl) h.id h.heartbeat hStage
        (.inr (by rw [hTake]; rfl))
    | frame text =>
      exact ⟨_, _, hStep, (by rw [hTake]; rfl),
        .of_running hRuns h.id h.heartbeat hStage hReader (by rw [hTake]; rfl),
        (s.release_of_running s hRuns _).symm⟩
    | nothing =>
      exact ⟨_, _, hStep, (by rw [hTake]; rfl),
        .of_running hRuns h.id h.heartbeat hStage hReader (by rw [hTake]; rfl),
        (s.release_of_running s hRuns _).symm⟩

end Life

end ChatRelay
