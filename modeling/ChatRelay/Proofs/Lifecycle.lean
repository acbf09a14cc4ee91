import ChatRelay.Proofs.Life
import ChatRelay.Proofs.RoundTrip.Records

/-! What holds in the life of every connection, whatever happens in which order.  Nothing from the client is
handled before the registration; no frame ends a loop; when the connection has returned, its registration was
ended, once; and its end leaves the other connections and the posts that it has started alone.
`Life.Consistent` is what each step preserves, and `Life.lawful` what follows for a run. -/

namespace ChatRelay

open ChatRelay.Activity (EndsInFanOut)

/-- A loop ends because of this: the client, the transport or the heartbeat gives the other end up, or the
registration was ended by somebody else. -/
def Happening.Ends : Happening → Prop
  | arrives .ended | writes .ended | writeFails | ticks false => True
  | _ => False

/-- A frame arrives, or the reader goes on with one. -/
inductive Happening.OfFrame : Happening → Prop
  | arrives (raw : List UInt8) (fresh : Fresh) : OfFrame (.arrives (.frame raw fresh))
  | handles : OfFrame .handles

/-- The action tells a connection something. -/
def Action.Tells (id : ConnectionId) (action : Action) : Prop :=
  ∃ frame, action = .sendTo id frame

theorem sendError_tells (acks : Bool) (id : ConnectionId) (code : ErrorCode) (channel : Option String) :
    (if acks then sendError id code channel else pure () : Activity Unit).Uses (Action.Tells id) := by
  cases acks with
  | true => exact .bind (.ofAction ⟨_, rfl⟩) fun _ => .pure ()
  | false => exact .pure ()

theorem afterPost_tells (acks : Bool) (id : ConnectionId) (k : Posting)
    (result : Except RelayError Message) : (afterPost acks id k result).Uses (Action.Tells id) := by
  cases result with
  | ok m => exact .pure ()
  | error e => exact sendError_tells acks id e.code _

theorem handleFrame_tells {raw : List UInt8} (hRaw : (Wire.decode? raw : Option SendRequest) = none)
    (acks : Bool) (id : ConnectionId) (fresh : Fresh) :
    (handleFrame acks id raw fresh).Uses (Action.Tells id) := by
  unfold handleFrame
  rw [hRaw]
  exact sendError_tells acks id .malformed none

namespace Life

variable {l l' : Life} {h : Happening} {hs : List Happening}

/-! ### What each step preserves -/

/-- What holds at every moment. -/
structure Consistent (l : Life) : Prop where
  opened : l.stage = .live ∨ l.stage = .returned → l.id ∈ joined l.past
  waits : ∀ n, l.reader = .posting n → n < l.strands.length
  tells : ∀ rest, l.reader = .telling rest → rest.Uses (Action.Tells l.id)
  ended : l.stage = .returned → (joined l.past).count l.id ≤ 1 → l.id ∈ left l.past

theorem Step.past_grows (hStep : Step l h l') : l.past <+: l'.past :=
  (Throng.turns_of_steps hStep.throng).past_grows

theorem Consistent.step (hConsistent : l.Consistent) (hLedger : Ledger l.relay.registry l.past)
    (hStep : Step l h l') : l'.Consistent := by
  obtain ⟨hOpened, hWaits, hTells, hEnded⟩ := hConsistent
  have hJoined : joined l.past <+: joined l'.past := hStep.past_grows.filterMap _
  have hLeft : left l.past <+: left l'.past := hStep.past_grows.filterMap _
  have hOpened' : l.stage = .live ∨ l.stage = .returned → l.id ∈ joined l'.past :=
    fun hStage => hJoined.subset (hOpened hStage)
  have hEnded' : l.stage = .returned → (joined l'.past).count l.id ≤ 1 → l.id ∈ left l'.past :=
    fun hStage hOnce => hLeft.subset (hEnded hStage ((hJoined.sublist.count_le _).trans hOnce))
  cases hStep with
  | beside hBeside =>
    exact ⟨hOpened', fun n hn => (hWaits n hn).trans_le hBeside.length_le, hTells, hEnded'⟩
  | opens hStage =>
    refine ⟨fun hNow => ?_, hWaits, hTells, fun hNow => ?_⟩
    · have hRegistered : (l.relay.registry.register l.id).1 := by
        by_contra hNot
        simp [hNot] at hNow
      refine List.mem_filterMap.2 ⟨(Action.register l.id).performed l.relay,
        List.mem_map.2 ⟨_, List.mem_append_right _ (List.mem_singleton_self _), rfl⟩, ?_⟩
      rw [Action.performed_register, hRegistered]
      rfl
    · dsimp only at hNow
      split at hNow <;> contradiction
  | malformed fresh hStage hReader hRaw =>
    refine ⟨hOpened', (fun n hn => nomatch hn), fun rest hRest => ?_, hEnded'⟩
    exact Reader.telling.inj hRest ▸ handleFrame_tells hRaw ..
  | posts fresh hStage hReader hRaw =>
    refine ⟨hOpened', fun n hn => ?_, (fun rest hRest => nomatch hRest), hEnded'⟩
    obtain rfl : l.strands.length = n := Reader.posting.inj hn
    simp
  | pinged hStage hReader => exact ⟨hOpened', hWaits, hTells, hEnded'⟩
  | ponged hStage hReader => exact ⟨hOpened', hWaits, hTells, hEnded'⟩
  | ended hStage hReader =>
    exact ⟨hOpened', (fun n hn => nomatch hn), (fun rest hRest => nomatch hRest), hEnded'⟩
  | posted hReader hStrand hRest =>
    refine ⟨hOpened', (fun n hn => nomatch hn), fun rest hRest => ?_, hEnded'⟩
    exact Reader.telling.inj hRest ▸ afterPost_tells ..
  | tells hReader =>
    refine ⟨hOpened', (fun n hn => nomatch hn), fun rest hRest => ?_, hEnded'⟩
    exact Reader.telling.inj hRest ▸ (hTells _ hReader).2 _
  | told hReader =>
    exact ⟨hOpened', (fun n hn => nomatch hn), (fun rest hRest => nomatch hRest), hEnded'⟩
  | writes hStage hWriter => exact ⟨hOpened', hWaits, hTells, hEnded'⟩
  | writeFails hStage hWriter => exact ⟨hOpened', hWaits, hTells, hEnded'⟩
  | ticks hStage hWriter hTick => exact ⟨hOpened', hWaits, hTells, hEnded'⟩
  | expires hStage hWriter hTick => exact ⟨hOpened', hWaits, hTells, hEnded'⟩
  | closes hWriter => exact ⟨hOpened', hWaits, hTells, hEnded'⟩
  | abortsReader hStage hWriter =>
    exact ⟨hOpened', (fun n hn => nomatch hn), (fun rest hRest => nomatch hRest), hEnded'⟩
  | abortsWriter hStage hReader => exact ⟨hOpened', hWaits, hTells, hEnded'⟩
  | returns hStage hReader hWriter =>
    have hJoined' := hOpened' (.inl hStage)
    refine ⟨fun _ => hJoined', hWaits, hTells, fun _ hOnce => ?_⟩
    have hLedger' := hLedger.perform (.unregister l.id)
    rw [← l.past_perform] at hLedger'
    exact hLedger'.mem_left hOnce hJoined' (Registry.isRegistered_unregister ..)

/-! ### Single steps -/

/-- A frame leaves both loops. -/
theorem Step.loops_of_frame (hStep : Step l h l') (hFrame : h.OfFrame) :
    l'.reader ≠ .stopped ∧ l'.writer = l.writer := by
  cases hFrame with
  | arrives raw fresh => cases hStep <;> exact ⟨(fun hOver => nomatch hOver), rfl⟩
  | handles => cases hStep <;> exact ⟨(fun hOver => nomatch hOver), rfl⟩

/-- A loop is over because it was before, or because this ends it. -/
theorem Step.ends_or (hStep : Step l h l') (hOver : l'.reader = .stopped ∨ l'.writer ≠ .looping) :
    h.Ends ∨ l.reader = .stopped ∨ l.writer ≠ .looping := by
  cases hStep with
  | ended hStage hReader => exact .inl trivial
  | writeFails hStage hWriter => exact .inl trivial
  | expires hStage hWriter hTick => exact .inl trivial
  | writes hStage hWriter =>
    by_cases hEnded : (l.relay.registry.take l.id).1 = .ended
    · rw [hEnded]
      exact .inl trivial
    · exact .inr (hOver.imp_right fun hNot => absurd (if_neg hEnded) hNot)
  | closes hWriter => exact .inr (.inr (by simp [hWriter]))
  | abortsReader hStage hWriter => exact .inr (.inr (by simp [hWriter]))
  | abortsWriter hStage hReader => exact .inr (.inl hReader)
  | returns hStage hReader hWriter => exact .inr (.inl hReader)
  | malformed fresh hStage hReader hRaw => exact .inr (.inr (hOver.resolve_left fun hNot => nomatch hNot))
  | posts fresh hStage hReader hRaw => exact .inr (.inr (hOver.resolve_left fun hNot => nomatch hNot))
  | posted hReader hStrand hRest => exact .inr (.inr (hOver.resolve_left fun hNot => nomatch hNot))
  | tells hReader => exact .inr (.inr (hOver.resolve_left fun hNot => nomatch hNot))
  | told hReader => exact .inr (.inr (hOver.resolve_left fun hNot => nomatch hNot))
  | _ => exact .inr hOver

/-- The connection itself leaves the queues of the others. -/
theorem Step.outbox?_eq (hStep : Step l h l') (hConsistent : l.Consistent) (hOwn : h ≠ .beside)
    {other : ConnectionId} (hOther : other ≠ l.id) :
    l'.relay.registry.outbox? other = l.relay.registry.outbox? other := by
  cases hStep with
  | beside hBeside => exact absurd rfl hOwn
  | opens hStage => exact Registry.outbox?_register_of_ne hOther _
  | tells hReader =>
    obtain ⟨frame, rfl⟩ := (hConsistent.tells _ hReader).1
    exact Registry.outbox?_sendTo_of_ne hOther _ frame
  | writes hStage hWriter => exact Registry.outbox?_take_of_ne hOther _
  | closes hWriter => exact Registry.outbox?_dropReader_of_ne hOther _
  | abortsWriter hStage hReader => exact Registry.outbox?_dropReader_of_ne hOther _
  | returns hStage hReader hWriter => exact Registry.outbox?_unregister_of_ne hOther _
  | _ => rfl

/-- The connection itself leaves the posts that are under way. -/
theorem Step.strand_kept (hStep : Step l h l') (hOwn : h ≠ .beside) {n : Nat}
    {t : Strand Posting (Except RelayError Message)} (hStrand : l.strands[n]? = some t) :
    l'.strands[n]? = some t := by
  cases hStep with
  | beside hBeside => exact absurd rfl hOwn
  | posts fresh hStage hReader hRaw =>
    exact (List.getElem?_append_left (List.getElem?_eq_some_iff.1 hStrand).1).trans hStrand
  | _ => exact hStrand

/-- Unless it is over, the reader can always come back to its loop. -/
theorem Consistent.exists_run_looping (hConsistent : l.Consistent) (hReader : l.reader ≠ .stopped) :
    ∃ (hs : List Happening) (l' : Life), Run l hs l' ∧ l'.reader = .looping ∧ l'.writer = l.writer ∧
      ∀ h ∈ hs, h = .beside ∨ h = .handles := by
  cases hNow : l.reader with
  | looping => exact ⟨[], l, .refl, hNow, rfl, by simp⟩
  | stopped => exact absurd hNow hReader
  | telling rest =>
    obtain ⟨hs, p, hRun, hAll, -⟩ := exists_run_telling hNow
    exact ⟨hs, _, hRun, rfl, rfl, fun h hh => .inr (hAll h hh)⟩
  | posting n =>
    obtain ⟨t, hStrand⟩ : ∃ t, l.strands[n]? = some t :=
      ⟨_, List.getElem?_eq_getElem (hConsistent.waits n hNow)⟩
    obtain ⟨p, past, hSteps, hDone, -⟩ := Throng.exists_steps_done Posting.activity hStrand
    obtain ⟨hs, hBeside, hAll⟩ := exists_run_beside hSteps
    have hPosted := Step.posted (l := { l with toThrong := p }) hNow hDone rfl
    obtain ⟨hs', p', hRun, hAll', -⟩ := exists_run_telling (l := { l with
      toThrong := p, reader := .telling (afterPost l.acks l.id t.label (t.rest.run l.relay).1) }) rfl
    refine ⟨_, _, (hBeside.tail hPosted).trans hRun, rfl, rfl, fun h hh => ?_⟩
    rcases List.mem_append.1 hh with hh | hh
    · rcases List.mem_append.1 hh with hh | hh
      · exact .inl (hAll h hh)
      · exact .inr (List.mem_singleton.1 hh)
    · exact .inr (hAll' h hh)

/-! ### Runs -/

theorem Run.start_throng {start : Relay} {id : ConnectionId} {acks : Bool}
    (hRun : Run { relay := start, id, acks } hs l) : Throng.Run Posting.activity start l.toThrong :=
  hRun.throng

section

variable {start : Relay} {id : ConnectionId} {acks : Bool}

theorem Run.ledger (hNobody : start.registry.clients = []) (hRun : Run { relay := start, id, acks } hs l) :
    Ledger l.relay.registry l.past :=
  (hRun.start_throng.turns.ledger rfl hNobody).1

theorem Run.consistent (hNobody : start.registry.clients = [])
    (hRun : Run { relay := start, id, acks } hs l) : l.Consistent := by
  induction hRun with
  | refl =>
    exact ⟨by simp, (fun n hn => nomatch hn), (fun rest hRest => nomatch hRest),
      (fun hStage => nomatch hStage)⟩
  | tail hBefore hStep ih => exact ih.step (hBefore.ledger hNobody) hStep

/-- If a loop is over, something has happened that ends one. -/
theorem Run.exists_ends (hRun : Run { relay := start, id, acks } hs l)
    (hOver : l.reader = .stopped ∨ l.writer ≠ .looping) : ∃ h ∈ hs, h.Ends := by
  induction hRun with
  | refl => exact absurd hOver (by simp)
  | tail hBefore hStep ih =>
    rcases hStep.ends_or hOver with hEnds | hOld
    · exact ⟨_, List.mem_append_right _ (List.mem_singleton_self _), hEnds⟩
    · obtain ⟨h, hh, hEnds⟩ := ih hOld
      exact ⟨h, List.mem_append_left _ hh, hEnds⟩

end

/-! ### Laws -/

/-- A post under way that does not depend on the connection. -/
structure Standalone (l : Life) (n : Nat) (t : Strand Posting (Except RelayError Message)) : Prop where
  /-- Nothing that the connection does itself changes the post. -/
  kept : ∀ h l', h ≠ .beside → Step l h l' → l'.strands[n]? = some t
  /-- The post can go on, however far the connection has got. -/
  goesOn : ∀ action next, t.rest = .act action next → ∃ l' t', Step l .beside l' ∧
    l'.relay = (action.perform l.relay).2 ∧ l'.strands[n]? = some t' ∧
      t'.rest = next (action.perform l.relay).1
  /-- However things go on, for the post they are slots. -/
  amid : ∀ hs l', Run l hs l' → ∃ (slots : List Slot) (t' : Strand Posting (Except RelayError Message)),
    l'.strands[n]? = some t' ∧
      slots.foldl (fun s slot => slot.turn s) (t.rest, l.relay) = (t'.rest, l'.relay)
  /-- What is done to the connection in some of the slots makes no difference: neither to what the post
  returns, nor to the relay after it, apart from the connection itself. -/
  sameEffect : ∀ r' slots slots', l.relay.Alike [l.id] r' →
    slots.filter (! ·.touches l.id) = slots'.filter (! ·.touches l.id) →
    (slots.filterMap (·.registers?)).Nodup →
    (∀ x ∈ slots.filterMap (·.registers?), l.relay.registry.isRegistered x = false) →
      (t.rest.runAmid slots l.relay).1 = (t.rest.runAmid slots' r').1 ∧
        Relay.Alike [l.id] (t.rest.runAmid slots l.relay).2 (t.rest.runAmid slots' r').2

/-- What holds of a connection to which `hs` have happened, and of whatever happens to it next. -/
structure Lawful (hs : List Happening) (l : Life) : Prop where
  /-- Nothing from the client is handled before the connection is registered. -/
  registered : ∀ what l', Step l (.arrives what) l' → l.id ∈ joined l.past
  /-- A frame, whatever comes of it, leaves both loops... -/
  frames : ∀ h l', h.OfFrame → Step l h l' → l'.reader ≠ .stopped ∧ l'.writer = l.writer
  /-- ... and the reader can always come back to its own. -/
  resumes : l.reader ≠ .stopped → ∃ (hs' : List Happening) (l' : Life), Run l hs' l' ∧
    l'.reader = .looping ∧ l'.writer = l.writer ∧ ∀ h ∈ hs', h = .beside ∨ h = .handles
  loops : l.reader = .stopped ∨ l.writer ≠ .looping → ∃ h ∈ hs, h.Ends
  returned : l.stage = .returned →
    l.relay.registry.isRegistered l.id = false ∧ (left l.past).count l.id = 1
  once : (left l.past).count l.id ≤ 1
  /-- What the connection does itself leaves the registrations and the queues of the others. -/
  others : ∀ h l', h ≠ .beside → Step l h l' → ∀ other, other ≠ l.id →
    l'.relay.registry.outbox? other = l.relay.registry.outbox? other
  posts : ∀ n t, l.strands[n]? = some t → l.Standalone n t

theorem standalone {n : Nat} {t : Strand Posting (Except RelayError Message)}
    (hEnds : t.rest.EndsInFanOut) (hStrand : l.strands[n]? = some t) : l.Standalone n t where
  kept _ _ hOwn hStep := hStep.strand_kept hOwn hStrand
  goesOn _ _ hRest :=
    ⟨_, _, .beside (.performs l.toThrong hStrand hRest), rfl,
      List.getElem?_set_self (List.getElem?_eq_some_iff.1 hStrand).1, rfl⟩
  amid _ _ hRun := Throng.exists_slots hRun.throng hStrand
  sameEffect _ _ _ hAlike hSlots hOnce hNew := hEnds.runAmid hAlike hSlots hOnce hNew

/-- The life of a connection.  Whatever has happened, in whichever order, since a start with nobody connected:
if the connection was registered once at most, it is registered before anything that arrives is handled; no
frame ends a loop; when the connection has returned it is not registered, and of all that was done to the
registry one removal of it succeeded; what it does itself leaves the others; and the posts that it has started
go on and have the same effect, apart from its own queue, whatever becomes of it. -/
theorem lawful {start : Relay} {id : ConnectionId} {acks : Bool} (hNobody : start.registry.clients = [])
    (hRun : Run { relay := start, id, acks } hs l) (hOnce : (joined l.past).count l.id ≤ 1) :
    l.Lawful hs := by
  have hConsistent := hRun.consistent hNobody
  have hLedger := hRun.ledger hNobody
  refine ⟨fun what l' hStep => ?_, fun h l' hFrame hStep => hStep.loops_of_frame hFrame,
    hConsistent.exists_run_looping, hRun.exists_ends, fun hReturned => ?_, hLedger.count_left_le hOnce,
    fun h l' hOwn hStep other hOther => hStep.outbox?_eq hConsistent hOwn hOther, fun n t hStrand => ?_⟩
  · refine hConsistent.opened (.inl ?_)
    cases hStep <;> assumption
  · have hLeft := hConsistent.ended hReturned hOnce
    refine ⟨?_, Nat.le_antisymm (hLedger.count_left_le hOnce) (List.count_pos_iff.2 hLeft)⟩
    rw [Registry.isRegistered, hLedger.outbox?_eq_none hOnce hLeft]
    rfl
  · exact standalone (hRun.start_throng.endsInFanOut Posting.endsInFanOut t (List.mem_of_getElem? hStrand))
      hStrand

/-- A connection is told of a frame that was no request, which fills its queue.  Then it posts, a write fails,
and it is over before the message is stored; the post goes on to its end. -/
theorem lawful_posts_to_the_end :
    ∃ hs l, Run { relay := .ofDatabase .fresh 1, id := ⟨"ann", .zero⟩, acks := true } hs l ∧
      l.stage = .returned ∧ (∃ t m, l.strands = [t] ∧ t.rest = .done (.ok m)) ∧ l.Lawful hs := by
  have hRun := (((((((((((Run.refl
    (l := { relay := .ofDatabase .fresh 1, id := ⟨"ann", .zero⟩, acks := true })).tail
    (.beside (.others _ (.call (.createChannel "staff" "Staff" "private"))))).tail
    (.beside (.others _ (.call (.addMember "staff" "ann"))))).tail
    (.opens rfl)).tail
    (Step.malformed ⟨.zero, 5⟩ rfl rfl (rfl : (Wire.decode? [] : Option SendRequest) = none))).tail
    (.tells rfl)).tail
    (.told rfl)).tail
    (.posts ⟨.zero, 6⟩ rfl rfl (Wire.decode?_encode ⟨"staff", [1], [], [], .text⟩))).tail
    (.beside (.performs _ (n := 0) rfl rfl))).tail
    (.writeFails rfl rfl)).tail
    (.closes rfl)).tail
    (.abortsReader rfl rfl)
  have hRun := ((((((((hRun.tail
    (.returns rfl rfl rfl)).tail
    (.beside (.performs _ (n := 0) rfl rfl))).tail
    (.beside (.performs _ (n := 0) rfl rfl))).tail
    (.beside (.performs _ (n := 0) rfl rfl))).tail
    (.beside (.performs _ (n := 0) rfl rfl))).tail
    (.beside (.performs _ (n := 0) rfl rfl))).tail
    (.beside (.performs _ (n := 0) rfl rfl))).tail
    (.beside (.performs _ (n := 0) rfl rfl)))
  exact ⟨_, _, hRun, rfl, ⟨_, _, rfl, rfl⟩, lawful rfl hRun (by decide)⟩

end Life

end ChatRelay
