import ChatRelay.Proofs.Lifecycle
import Mathlib.Data.List.TakeWhile

/-! When the heartbeat gives a client up, and what becomes of the queue meanwhile.  All that the heartbeat
knows is how many of its latest ticks came one after another with no answer between them, up to two
(`Heartbeat.Follows`); a third one ends the connection.  A tick takes nothing from the queue: what waits there is
written, in its order, as if the tick had not been. -/

namespace ChatRelay

/-! ### Ticks and answers -/

/-- What the heartbeat sees. -/
inductive Beat where
  | tick
  | answer
  deriving DecidableEq

/-- How many ticks there have been since the last answer. -/
def unanswered (bs : List Beat) : Nat :=
  (bs.reverse.takeWhile (· = .tick)).length

theorem unanswered_concat_tick (bs : List Beat) : unanswered (bs ++ [.tick]) = unanswered bs + 1 := by
  simp [unanswered]

theorem unanswered_concat_answer (bs : List Beat) : unanswered (bs ++ [.answer]) = 0 := by
  simp [unanswered]

theorem unanswered_three (bs : List Beat) :
    unanswered (bs ++ [.tick, .tick, .tick]) = unanswered bs + 3 := by
  simp [unanswered]

/-- The last ticks, as many as are unanswered, come one after another. -/
theorem exists_append_replicate (bs : List Beat) :
    ∃ rest, bs = rest ++ List.replicate (unanswered bs) .tick := by
  have hTicks : bs.reverse.takeWhile (· = .tick) = List.replicate (unanswered bs) .tick := by
    refine List.eq_replicate_iff.2 ⟨rfl, fun b hb => ?_⟩
    simpa using List.mem_takeWhile_imp hb
  refine ⟨(bs.reverse.dropWhile (· = .tick)).reverse, ?_⟩
  calc bs = (bs.reverse.takeWhile (· = .tick) ++ bs.reverse.dropWhile (· = .tick)).reverse := by
        rw [List.takeWhile_append_dropWhile, List.reverse_reverse]
    _ = (bs.reverse.dropWhile (· = .tick)).reverse ++ List.replicate (unanswered bs) .tick := by
        rw [hTicks, List.reverse_append, List.reverse_replicate]

namespace Heartbeat

theorem missed_lt_of_tick? {h h' : Heartbeat} (hTick : h.tick? = some h') : h'.missed < maxMissed := by
  unfold tick? at hTick
  split at hTick
  · obtain rfl := Option.some.inj hTick
    decide
  · split at hTick
    · rename_i hFew
      obtain rfl := Option.some.inj hTick
      exact hFew
    · contradiction

/-- The tick at which the heartbeat gives up is the last that may be missed. -/
theorem missed_of_tick?_eq_none {h : Heartbeat} (hTick : h.tick? = none) (hMissed : h.missed < maxMissed) :
    h.missed + 1 = maxMissed := by
  unfold tick? at hTick
  split at hTick
  · contradiction
  · split at hTick
    · contradiction
    · omega

/-- What the heartbeat knows of what it has seen. -/
structure Follows (h : Heartbeat) (bs : List Beat) : Prop where
  answered : h.answered ↔ unanswered bs = 0
  missed : unanswered bs ≠ 0 → h.missed + 1 = unanswered bs
  missed_lt : h.missed < maxMissed

theorem Follows.start : ({} : Heartbeat).Follows [] :=
  ⟨by decide, by decide, by decide⟩

variable {h h' : Heartbeat} {bs : List Beat}

theorem Follows.unanswered_le (hFollows : h.Follows bs) : unanswered bs ≤ maxMissed := by
  have hMissed := hFollows.missed
  have hLess := hFollows.missed_lt
  omega

theorem Follows.answer (hFollows : h.Follows bs) : h.answer.Follows (bs ++ [.answer]) := by
  refine ⟨?_, ?_, hFollows.missed_lt⟩
  · simp [unanswered_concat_answer, Heartbeat.answer]
  · simp [unanswered_concat_answer]

theorem Follows.tick (hFollows : h.Follows bs) (hTick : h.tick? = some h') :
    h'.Follows (bs ++ [.tick]) := by
  have hLess := missed_lt_of_tick? hTick
  unfold tick? at hTick
  split at hTick
  · rename_i hYes
    obtain rfl := Option.some.inj hTick
    refine ⟨?_, fun _ => ?_, hLess⟩
    · simp [unanswered_concat_tick]
    · rw [unanswered_concat_tick, hFollows.answered.1 hYes]
  · rename_i hNo
    split at hTick
    · obtain rfl := Option.some.inj hTick
      have hSome : unanswered bs ≠ 0 := fun hNone => hNo (hFollows.answered.2 hNone)
      refine ⟨?_, fun _ => ?_, hLess⟩
      · simp [unanswered_concat_tick]
      · rw [unanswered_concat_tick, ← hFollows.missed hSome]
    · contradiction

/-- The heartbeat gives up when the ticks before this one have used up what may be missed. -/
theorem Follows.gives_up_iff (hFollows : h.Follows bs) :
    h.tick? = none ↔ unanswered bs = maxMissed := by
  obtain ⟨hAnswered, hMissed, hLess⟩ := hFollows
  unfold tick? maxMissed at *
  split
  · rename_i hYes
    rw [hAnswered.1 hYes]
    simp
  · rename_i hNo
    have hSome : unanswered bs ≠ 0 := fun hNone => hNo (hAnswered.2 hNone)
    have hCount := hMissed hSome
    split
    · simp
      omega
    · simp
      omega

end Heartbeat

/-! ### Happenings -/

/-- What the heartbeat sees of what happens. -/
def Happening.beat? : Happening → Option Beat
  | ticks _ => some .tick
  | arrives .pong => some .answer
  | _ => none

/-- What the heartbeat sees, in order. -/
def beats (hs : List Happening) : List Beat :=
  hs.filterMap Happening.beat?

def tickCount (hs : List Happening) : Nat :=
  (beats hs).count .tick

/-- What goes out to the client, in order. -/
def written (hs : List Happening) : List Outbound :=
  hs.flatMap Happening.written

/-- The frame that goes out, if it is one. -/
def Outbound.frame? : Outbound → Option Frame
  | frame text => some text
  | ping => none

/-- The frames that go out, in order. -/
def framesOut (hs : List Happening) : List Frame :=
  (written hs).filterMap Outbound.frame?

def Happening.isTick : Happening → Bool
  | ticks _ => true
  | _ => false

/-- Tick `n` and the two before it come one after another, with no answer between them. -/
def Silent (hs : List Happening) (n : Nat) : Prop :=
  ∃ before after, beats hs = before ++ [.tick, .tick, .tick] ++ after ∧ before.count .tick + 3 = n

/-- At tick `n` the heartbeat gives the client up. -/
def GivesUpAt (hs : List Happening) (n : Nat) : Prop :=
  ∃ before after, hs = before ++ .ticks false :: after ∧ tickCount before + 1 = n

theorem beats_append (hs hs' : List Happening) : beats (hs ++ hs') = beats hs ++ beats hs' :=
  List.filterMap_append

theorem beats_concat (hs : List Happening) (h : Happening) :
    beats (hs ++ [h]) = beats hs ++ h.beat?.toList := by
  rw [beats_append]
  unfold beats
  cases hBeat : h.beat? <;> simp [hBeat]

theorem tickCount_append (hs hs' : List Happening) : tickCount (hs ++ hs') = tickCount hs + tickCount hs' := by
  rw [tickCount, beats_append, List.count_append]
  rfl

theorem tickCount_cons_ticks (alive : Bool) (hs : List Happening) :
    tickCount (.ticks alive :: hs) = tickCount hs + 1 :=
  List.count_cons_self ..

theorem count_ping_written_cons (first : Happening) (rest : List Happening) :
    (written (first :: rest)).count .ping = first.written.count .ping + (written rest).count .ping := by
  rw [written, List.flatMap_cons, List.count_append]
  rfl

/-- Every tick at which the heartbeat does not give up writes a ping, and nothing else does. -/
theorem count_ping_written {hs : List Happening} (h : .ticks false ∉ hs) :
    (written hs).count .ping = tickCount hs := by
  induction hs with
  | nil => rfl
  | cons first rest ih =>
    obtain ⟨hFirst, hRest⟩ := not_or.1 (mt List.mem_cons.2 h)
    have hHead : first.written.count .ping = tickCount [first] := by
      match first with
      | .ticks true => rfl
      | .ticks false => contradiction
      | .writes (.frame text) => rfl
      | .writes .nothing | .writes .ended => rfl
      | .arrives .pong => rfl
      | .arrives (.frame raw fresh) | .arrives .ping | .arrives .ended => rfl
      | .beside | .opens | .handles | .writeFails | .closes | .aborts | .returns => rfl
    rw [count_ping_written_cons, ih hRest, hHead, ← tickCount_append]
    rfl

theorem framesOut_append (hs hs' : List Happening) :
    framesOut (hs ++ hs') = framesOut hs ++ framesOut hs' := by
  rw [framesOut, written, List.flatMap_append, List.filterMap_append]
  rfl

theorem framesOut_cons_ticks (alive : Bool) (hs : List Happening) :
    framesOut (.ticks alive :: hs) = framesOut hs := by
  cases alive <;> rfl

theorem framesOut_writes (reading : Registry.Reading) : framesOut [.writes reading] = reading.frames := by
  cases reading <;> rfl

theorem framesOut_without_ticks (hs : List Happening) :
    framesOut (hs.filter (!·.isTick)) = framesOut hs := by
  induction hs with
  | nil => rfl
  | cons first rest ih =>
    cases hTick : first.isTick with
    | true =>
      rw [List.filter_cons_of_neg (by simp [hTick]), ih]
      cases first with
      | ticks alive => exact (framesOut_cons_ticks alive rest).symm
      | _ => contradiction
    | false =>
      rw [List.filter_cons_of_pos (by simp [hTick]), ← List.singleton_append, framesOut_append, ih,
        ← framesOut_append]
      rfl

theorem tickCount_ne_zero {hs : List Happening} {alive : Bool} (h : .ticks alive ∈ hs) :
    tickCount hs ≠ 0 := by
  obtain ⟨before, after, rfl⟩ := List.append_of_mem h
  rw [tickCount_append, tickCount_cons_ticks]
  omega

theorem GivesUpAt.append {hs : List Happening} {n : Nat} (h : GivesUpAt hs n) (more : List Happening) :
    GivesUpAt (hs ++ more) n := by
  obtain ⟨before, after, rfl, hn⟩ := h
  exact ⟨before, after ++ more, List.append_assoc .., hn⟩

theorem GivesUpAt.of_mem {hs : List Happening} (h : .ticks false ∈ hs) : ∃ n, GivesUpAt hs n := by
  obtain ⟨before, after, hSplit⟩ := List.append_of_mem h
  exact ⟨_, before, after, hSplit, rfl⟩

namespace Life

variable {l l' : Life} {h : Happening} {hs before after : List Happening}

/-- A run is interrupted where something happens. -/
theorem Run.at (hRun : Run l hs l') (hSplit : hs = before ++ h :: after) :
    ∃ m m', Run l before m ∧ Step m h m' ∧ Run m' after l' := by
  induction hRun generalizing after with
  | refl => simp at hSplit
  | tail hBefore hStep ih =>
    rcases List.eq_nil_or_concat after with rfl | ⟨rest, last, rfl⟩
    · obtain ⟨rfl, hLast⟩ := List.append_inj' hSplit rfl
      obtain rfl := List.singleton_inj.1 hLast
      exact ⟨_, _, hBefore, hStep, .refl⟩
    · rw [List.concat_eq_append, ← List.cons_append, ← List.append_assoc] at hSplit
      obtain ⟨hSame, hLast⟩ := List.append_inj' hSplit rfl
      obtain ⟨m, m', hFirst, hThen, hRest⟩ := ih hSame
      rw [List.concat_eq_append, ← hLast]
      exact ⟨m, m', hFirst, hThen, hRest.tail hStep⟩

theorem Run.first (hRun : Run l (before ++ after) l') : ∃ m, Run l before m := by
  cases after with
  | nil => exact ⟨l', List.append_nil before ▸ hRun⟩
  | cons h rest =>
    obtain ⟨m, -, hFirst, -⟩ := hRun.at rfl
    exact ⟨m, hFirst⟩

/-! ### The verdict -/

theorem Step.follows {bs : List Beat} (hStep : Step l h l') (hGoesOn : h ≠ .ticks false)
    (hFollows : l.heartbeat.Follows bs) : l'.heartbeat.Follows (bs ++ h.beat?.toList) := by
  have hSame : l.heartbeat.Follows (bs ++ []) := by
    rwa [List.append_nil]
  cases hStep with
  | ponged hStage hReader => exact hFollows.answer
  | ticks hStage hWriter hTick => exact hFollows.tick hTick
  | expires hStage hWriter hTick => contradiction
  | _ => exact hSame

/-- A writer that has left its loop hears no more ticks. -/
theorem Step.writer_left (hStep : Step l h l') (hLeft : l.writer ≠ .looping) :
    l'.writer ≠ .looping ∧ tickCount [h] = 0 := by
  cases hStep with
  | writes hStage hWriter => exact absurd hWriter hLeft
  | writeFails hStage hWriter => exact absurd hWriter hLeft
  | ticks hStage hWriter hTick => exact absurd hWriter hLeft
  | expires hStage hWriter hTick => exact absurd hWriter hLeft
  | closes hWriter => exact ⟨(fun hOn => nomatch hOn), rfl⟩
  | abortsWriter hStage hReader => exact ⟨(fun hOn => nomatch hOn), rfl⟩
  | _ => exact ⟨hLeft, rfl⟩

theorem Run.tickCount_eq_zero (hRun : Run l hs l') (hLeft : l.writer ≠ .looping) :
    l'.writer ≠ .looping ∧ tickCount hs = 0 := by
  induction hRun with
  | refl => exact ⟨hLeft, rfl⟩
  | tail _ hStep ih =>
    obtain ⟨hNow, hNone⟩ := hStep.writer_left ih.1
    exact ⟨hNow, by rw [tickCount_append, ih.2, hNone]⟩

section

variable {start : Relay} {id : ConnectionId} {acks : Bool}

theorem Run.follows (hRun : Run { relay := start, id, acks } hs l) (hGoesOn : .ticks false ∉ hs) :
    l.heartbeat.Follows (beats hs) := by
  induction hRun with
  | refl => exact .start
  | tail hBefore hStep ih =>
    obtain ⟨hOld, hNew⟩ := not_or.1 (mt List.mem_append.2 hGoesOn)
    have hFollows := hStep.follows (fun hSame => hNew (hSame ▸ List.mem_singleton_self _)) (ih hOld)
    rwa [beats_concat]

/-- As long as the heartbeat goes on, no three ticks come one after another. -/
theorem Run.not_silent {n : Nat} (hRun : Run { relay := start, id, acks } hs l) (hGoesOn : .ticks false ∉ hs) :
    ¬ Silent hs n := by
  rintro ⟨a, d, hBeats, -⟩
  obtain ⟨before, after, rfl, hBefore, -⟩ := List.filterMap_eq_append_iff.1 hBeats
  obtain ⟨m, hFirst⟩ := hRun.first
  have hLe := (hFirst.follows fun hMem => hGoesOn (List.mem_append_left _ hMem)).unanswered_le
  rw [beats, hBefore, unanswered_three, maxMissed] at hLe
  omega

theorem Run.givesUp (hRun : Run l (before ++ .ticks false :: after) l') :
    ∃ m, Run l before m ∧ m.heartbeat.tick? = none ∧ tickCount after = 0 := by
  obtain ⟨m, m', hFirst, hStep, hRest⟩ := hRun.at rfl
  cases hStep with
  | expires hStage hWriter hTick =>
    exact ⟨m, hFirst, hTick, (hRest.tickCount_eq_zero fun hOn => nomatch hOn).2⟩

/-- No tick comes after the one at which the heartbeat gives up. -/
theorem Run.tickCount_of_givesUpAt {n : Nat} (hRun : Run l hs l') (hGivesUp : GivesUpAt hs n) :
    tickCount hs = n := by
  obtain ⟨before, after, rfl, rfl⟩ := hGivesUp
  obtain ⟨-, -, -, hNone⟩ := hRun.givesUp
  rw [tickCount_append, tickCount_cons_ticks, hNone]

/-- The heartbeat gives up once. -/
theorem Run.not_mem_of_givesUp (hRun : Run l (before ++ .ticks false :: after) l') :
    .ticks false ∉ before ∧ .ticks false ∉ after := by
  refine ⟨fun hMem => ?_, fun hMem => ?_⟩
  · obtain ⟨first, second, rfl⟩ := List.append_of_mem hMem
    rw [List.append_assoc, List.cons_append] at hRun
    obtain ⟨-, -, -, hNone⟩ := hRun.givesUp
    exact tickCount_ne_zero (List.mem_append_right _ (List.mem_cons_self ..)) hNone
  · obtain ⟨-, -, -, hNone⟩ := hRun.givesUp
    exact tickCount_ne_zero hMem hNone

theorem Run.silent_of_givesUpAt {n : Nat} (hRun : Run { relay := start, id, acks } hs l)
    (hGivesUp : GivesUpAt hs n) : Silent hs n := by
  obtain ⟨before, after, rfl, rfl⟩ := hGivesUp
  obtain ⟨m, hFirst, hTick, -⟩ := hRun.givesUp
  have hFollows := hFirst.follows hRun.not_mem_of_givesUp.1
  obtain ⟨rest, hBefore⟩ := exists_append_replicate (beats before)
  rw [hFollows.gives_up_iff.1 hTick] at hBefore
  refine ⟨rest, beats after, ?_, ?_⟩
  · rw [beats_append, hBefore]
    simp [beats, Happening.beat?, maxMissed]
  · rw [tickCount, hBefore, List.count_append, List.count_replicate_self, maxMissed]

theorem Run.first_of_givesUpAt {n k : Nat} (hRun : Run { relay := start, id, acks } hs l)
    (hGivesUp : GivesUpAt hs n) (hSilent : Silent hs k) : n ≤ k := by
  obtain ⟨a, d, hBeats, rfl⟩ := hSilent
  obtain ⟨first, second, rfl, hFirst, -⟩ := List.filterMap_eq_append_iff.1 hBeats
  obtain ⟨m, hEarlier⟩ := hRun.first
  by_cases hMem : .ticks false ∈ first
  · obtain ⟨n', hThere⟩ := GivesUpAt.of_mem hMem
    have hTicks : tickCount first = a.count .tick + 3 := by
      rw [tickCount, beats, hFirst, List.count_append]
      rfl
    rw [← hRun.tickCount_of_givesUpAt hGivesUp, hRun.tickCount_of_givesUpAt (hThere.append second),
      ← hEarlier.tickCount_of_givesUpAt hThere, hTicks]
  · exact absurd ⟨a, [], by rw [beats, hFirst, List.append_nil], rfl⟩ (hEarlier.not_silent hMem)

theorem Run.givesUpAt_iff {n : Nat} (hRun : Run { relay := start, id, acks } hs l) :
    GivesUpAt hs n ↔ Silent hs n ∧ ∀ k < n, ¬ Silent hs k := by
  constructor
  · intro hGivesUp
    exact ⟨hRun.silent_of_givesUpAt hGivesUp, fun k hk hSilent =>
      absurd (hRun.first_of_givesUpAt hGivesUp hSilent) (Nat.not_le.2 hk)⟩
  · rintro ⟨hSilent, hFirst⟩
    by_cases hMem : .ticks false ∈ hs
    · obtain ⟨m, hGivesUp⟩ := GivesUpAt.of_mem hMem
      have hLe := hRun.first_of_givesUpAt hGivesUp hSilent
      have hGe : n ≤ m := Nat.not_lt.1 fun hLess => hFirst m hLess (hRun.silent_of_givesUpAt hGivesUp)
      rwa [Nat.le_antisymm hGe hLe]
    · exact absurd hSilent (hRun.not_silent hMem)

/-- The ticks, and the pings for all of them but the last if the heartbeat gives up. -/
theorem Run.count_ping {n : Nat} (hRun : Run l hs l') (hGivesUp : GivesUpAt hs n) :
    tickCount hs = n ∧ (written hs).count .ping + 1 = n := by
  refine ⟨hRun.tickCount_of_givesUpAt hGivesUp, ?_⟩
  obtain ⟨before, after, rfl, rfl⟩ := hGivesUp
  obtain ⟨hBefore, hAfter⟩ := hRun.not_mem_of_givesUp
  obtain ⟨-, -, -, hNone⟩ := hRun.givesUp
  rw [written, List.flatMap_append, List.count_append, ← written, ← written, count_ping_written hBefore,
    count_ping_written_cons, count_ping_written hAfter, hNone]
  rfl

end

theorem Step.missed_lt (hStep : Step l h l') (hMissed : l.heartbeat.missed < maxMissed) :
    l'.heartbeat.missed < maxMissed := by
  cases hStep with
  | ticks hStage hWriter hTick => exact Heartbeat.missed_lt_of_tick? hTick
  | _ => exact hMissed

theorem Run.missed_lt (hRun : Run l hs l') (hMissed : l.heartbeat.missed < maxMissed) :
    l'.heartbeat.missed < maxMissed := by
  induction hRun with
  | refl => exact hMissed
  | tail _ hStep ih => exact hStep.missed_lt ih

/-! ### The queue -/

/-- The frames that wait to be written. -/
def queue (l : Life) : List Frame :=
  ((l.relay.registry.outbox? l.id).map (·.frames)).getD []

/-- A run in which whatever the connection does not do itself only adds to the end of its queue. -/
inductive Calm (l : Life) : List Happening → Life → Prop
  | refl : Calm l [] l
  | tail {before : List Happening} {h : Happening} {l' l'' : Life} (hCalm : Calm l before l')
      (hStep : Step l' h l'') (hQueue : h = .beside → l'.queue <+: l''.queue) : Calm l (before ++ [h]) l''

theorem Calm.run (hCalm : Calm l hs l') : Run l hs l' := by
  induction hCalm with
  | refl => exact .refl
  | tail _ hStep _ ih => exact ih.tail hStep

/-- A tick is nothing to the relay, its queues, and the posts under way. -/
theorem Step.toThrong_of_ticks {alive : Bool} (hStep : Step l (.ticks alive) l') :
    l'.toThrong = l.toThrong := by
  cases hStep with
  | ticks hStage hWriter hTick => rfl
  | expires hStage hWriter hTick => rfl

theorem Step.with_heartbeat (hStep : Step l h l') (hOther : h.isTick = false) (heartbeat : Heartbeat) :
    ∃ heartbeat', Step { l with heartbeat } h { l' with heartbeat := heartbeat' } := by
  cases hStep with
  | beside hBeside => exact ⟨heartbeat, .beside hBeside⟩
  | opens hStage => exact ⟨heartbeat, .opens hStage⟩
  | malformed fresh hStage hReader hRaw => exact ⟨heartbeat, .malformed fresh hStage hReader hRaw⟩
  | posts fresh hStage hReader hRaw => exact ⟨heartbeat, .posts fresh hStage hReader hRaw⟩
  | pinged hStage hReader => exact ⟨heartbeat, .pinged hStage hReader⟩
  | ponged hStage hReader => exact ⟨heartbeat.answer, .ponged hStage hReader⟩
  | ended hStage hReader => exact ⟨heartbeat, .ended hStage hReader⟩
  | posted hReader hStrand hRest => exact ⟨heartbeat, .posted hReader hStrand hRest⟩
  | tells hReader => exact ⟨heartbeat, .tells hReader⟩
  | told hReader => exact ⟨heartbeat, .told hReader⟩
  | writes hStage hWriter => exact ⟨heartbeat, .writes hStage hWriter⟩
  | writeFails hStage hWriter => exact ⟨heartbeat, .writeFails hStage hWriter⟩
  | ticks hStage hWriter hTick => contradiction
  | expires hStage hWriter hTick => contradiction
  | closes hWriter => exact ⟨heartbeat, .closes hWriter⟩
  | abortsReader hStage hWriter => exact ⟨heartbeat, .abortsReader hStage hWriter⟩
  | abortsWriter hStage hReader => exact ⟨heartbeat, .abortsWriter hStage hReader⟩
  | returns hStage hReader hWriter => exact ⟨heartbeat, .returns hStage hReader hWriter⟩

/-- Without the ticks, everything else happens all the same. -/
theorem Run.without_ticks (hRun : Run l hs l') (hGoesOn : .ticks false ∉ hs) :
    ∃ heartbeat, Run l (hs.filter (!·.isTick)) { l' with heartbeat } := by
  induction hRun with
  | refl => exact ⟨_, .refl⟩
  | @tail _ h l₁ _ hBefore hStep ih =>
    obtain ⟨hOld, hNew⟩ := not_or.1 (mt List.mem_append.2 hGoesOn)
    obtain ⟨heartbeat, hRun⟩ := ih hOld
    rw [List.filter_append]
    cases hTick : h.isTick with
    | false =>
      obtain ⟨heartbeat', hSame⟩ := hStep.with_heartbeat hTick heartbeat
      rw [List.filter_singleton, hTick]
      exact ⟨heartbeat', hRun.tail hSame⟩
    | true =>
      rw [List.filter_singleton, hTick]
      cases hStep with
      | ticks hStage hWriter hTick =>
        exact ⟨heartbeat, (List.append_nil _).symm ▸ hRun⟩
      | expires hStage hWriter hTick => exact absurd (List.mem_singleton_self _) hNew
      | _ => contradiction

theorem Step.stage_ne_opening (hStep : Step l h l') (hStage : l.stage ≠ .opening) :
    l'.stage ≠ .opening := by
  cases hStep with
  | opens hOpening => exact absurd hOpening hStage
  | returns hLive hReader hWriter => exact fun hNow => nomatch hNow
  | _ => exact hStage

theorem Step.writer_stopped (hStep : Step l h l') (hStopped : l.writer = .stopped) :
    l'.writer = .stopped := by
  cases hStep with
  | writes hStage hWriter => exact absurd (hWriter.symm.trans hStopped) (by simp)
  | writeFails hStage hWriter => exact absurd (hWriter.symm.trans hStopped) (by simp)
  | ticks hStage hWriter hTick => exact absurd (hWriter.symm.trans hStopped) (by simp)
  | expires hStage hWriter hTick => exact absurd (hWriter.symm.trans hStopped) (by simp)
  | closes hWriter => rfl
  | abortsWriter hStage hReader => rfl
  | _ => exact hStopped

theorem queue_sendTo (l : Life) (frame : Frame) :
    l.queue <+: (l.perform (.sendTo l.id frame)).queue := by
  unfold queue perform
  cases hOutbox : l.relay.registry.outbox? l.id with
  | none =>
    rw [Action.perform, Registry.sendTo_of_outbox?_eq_none hOutbox]
    exact List.nil_prefix
  | some o =>
    rw [Action.perform]
    dsimp only
    rw [Registry.outbox?_sendTo hOutbox]
    dsimp only [Option.map_some, Option.getD_some]
    split
    · exact List.prefix_append _ _
    · exact List.prefix_rfl

theorem queue_take (l : Life) :
    l.queue <+: (l.relay.registry.take l.id).1.frames ++ (l.perform (.take l.id)).queue := by
  unfold queue perform
  cases hOutbox : l.relay.registry.outbox? l.id with
  | none => exact List.nil_prefix
  | some o =>
    rw [Action.perform]
    dsimp only
    obtain ⟨-, hTake⟩ | ⟨text, rest, hFrames, hText, hRest⟩ := Registry.take_of_outbox? hOutbox
    · rw [hTake]
      dsimp only
      rw [hOutbox]
      exact List.prefix_rfl
    · rw [hText, hRest, Option.map_some, Option.getD_some, hFrames]
      exact List.prefix_rfl

/-- What the connection does itself takes nothing from its queue but what it writes, and that from the
front. -/
theorem Step.queue_prefix (hStep : Step l h l') (hConsistent : l.Consistent) (hOwn : h ≠ .beside)
    (hStage : l.stage ≠ .opening) (hWriter : l'.writer ≠ .stopped) :
    l.queue <+: framesOut [h] ++ l'.queue := by
  cases hStep with
  | beside hBeside => contradiction
  | opens hOpening => contradiction
  | tells hReader =>
    obtain ⟨frame, rfl⟩ := (hConsistent.tells _ hReader).1
    exact l.queue_sendTo frame
  | writes hLive hLooping =>
    rw [framesOut_writes]
    exact l.queue_take
  | closes hClosing => exact absurd rfl hWriter
  | abortsWriter hLive hReader => exact absurd rfl hWriter
  | returns hLive hReader hStopped => exact absurd hStopped hWriter
  | ticks hLive hLooping hTick => exact List.prefix_rfl
  | _ => exact List.prefix_rfl

/-- What waits in the queue is written first, in its order. -/
theorem Calm.queue_prefix {start : Relay} {id : ConnectionId} {acks : Bool} {past : List Happening}
    (hNobody : start.registry.clients = []) (hRun : Run { relay := start, id, acks } past l)
    (hCalm : Calm l hs l') (hStage : l.stage ≠ .opening) (hWriter : l'.writer ≠ .stopped) :
    l'.stage ≠ .opening ∧ l.queue <+: framesOut hs ++ l'.queue := by
  induction hCalm with
  | refl => exact ⟨hStage, List.prefix_rfl⟩
  | @tail before h l₁ l₂ hBefore hStep hQueue ih =>
    obtain ⟨hOpened, hPrefix⟩ := ih fun hStopped => hWriter (hStep.writer_stopped hStopped)
    refine ⟨hStep.stage_ne_opening hOpened, ?_⟩
    have hNext : l₁.queue <+: framesOut [h] ++ l₂.queue := by
      by_cases hOwn : h = .beside
      · rw [hOwn]
        exact hQueue hOwn
      · exact hStep.queue_prefix ((hRun.trans hBefore.run).consistent hNobody) hOwn hOpened hWriter
    rw [framesOut_append, List.append_assoc]
    exact hPrefix.trans ((List.prefix_append_right_inj _).2 hNext)

/-! ### Connections that are watched -/

/-- What the heartbeat makes of what happens to a connection that was as `first`, and `hs` has happened to
it since. -/
structure Watched (first : Life) (hs : List Happening) (l : Life) : Prop where
  /-- It gives up at the first tick that, with the two before it, has no answer between. -/
  verdict : ∀ n, GivesUpAt hs n ↔ Silent hs n ∧ ∀ k < n, ¬ Silent hs k
  /-- Then the write loop is left.  Every tick before has written a ping, this one none, and it is the last. -/
  last : ∀ n, GivesUpAt hs n →
    l.writer ≠ .looping ∧ tickCount hs = n ∧ (written hs).count .ping + 1 = n
  pings : .ticks false ∉ hs → (written hs).count .ping = tickCount hs
  /-- The counter does not pass its bound, not even at the tick that gives up. -/
  missed : l.heartbeat.missed < maxMissed ∧
    ∀ l', Step l (.ticks false) l' → l.heartbeat.missed + 1 = maxMissed
  /-- A tick is nothing to the relay, its queues, and the posts under way. -/
  ticks : ∀ alive l', Step l (.ticks alive) l' → l'.toThrong = l.toThrong
  /-- Without the ticks, everything else happens all the same, and the same frames are written. -/
  unnoticed : .ticks false ∉ hs → ∃ heartbeat, Run first (hs.filter (!·.isTick)) { l with heartbeat } ∧
    framesOut (hs.filter (!·.isTick)) = framesOut hs
  /-- What waits in the queue is written first, in its order, or still waits. -/
  queue : ∀ more l', Calm l more l' → l.stage ≠ .opening → l'.writer ≠ .stopped →
    l.queue <+: framesOut more ++ l'.queue

/-- The verdict of the heartbeat.  Whatever happens to a connection, in whichever order, with answers at any
time and in any number: it is given up at the first tick that follows two others with no answer between them,
the third at the earliest; each tick before it asks once; and no tick loses a frame or changes their order. -/
theorem heartbeat_verdict {start : Relay} {id : ConnectionId} {acks : Bool} (hNobody : start.registry.clients = [])
    (hRun : Run { relay := start, id, acks } hs l) : Watched { relay := start, id, acks } hs l where
  verdict n := hRun.givesUpAt_iff
  last n hGivesUp := by
    refine ⟨?_, hRun.count_ping hGivesUp⟩
    obtain ⟨before, after, rfl, -⟩ := hGivesUp
    obtain ⟨m, m', -, hStep, hRest⟩ := hRun.at rfl
    cases hStep with
    | expires hStage hWriter hTick => exact (hRest.tickCount_eq_zero fun hOn => nomatch hOn).1
  pings := count_ping_written
  missed := by
    have hMissed := hRun.missed_lt Heartbeat.Follows.start.missed_lt
    refine ⟨hMissed, fun l' hStep => ?_⟩
    cases hStep with
    | expires hStage hWriter hTick => exact Heartbeat.missed_of_tick?_eq_none hTick hMissed
  ticks _ _ hStep := hStep.toThrong_of_ticks
  unnoticed hGoesOn := by
    obtain ⟨heartbeat, hSame⟩ := hRun.without_ticks hGoesOn
    exact ⟨heartbeat, hSame, framesOut_without_ticks hs⟩
  queue _ _ hCalm hStage hWriter := (hCalm.queue_prefix hNobody hRun hStage hWriter).2

/-- A client answers the first ping, gets a frame between two ticks, and answers no more. -/
theorem heartbeat_verdict_third_silence :
    let first : Life := { relay := .ofDatabase .fresh 4, id := ⟨"ann", .zero⟩, acks := false }
    ∃ hs l, Run first hs l ∧ GivesUpAt hs 4 ∧ Silent hs 4 ∧ ¬ Silent hs 3 ∧
      (written hs).count .ping = 3 ∧ framesOut hs = ["hello"] ∧ Watched first hs l := by
  intro first
  obtain ⟨hs, l, hRun, hGivesUp, hFrames⟩ :
      ∃ hs l, Run first hs l ∧ GivesUpAt hs 4 ∧ framesOut hs = ["hello"] :=
    ⟨_, _, ((((((((Run.refl.tail
      (.opens rfl)).tail
      (.ticks rfl rfl rfl)).tail
      (.ponged rfl rfl)).tail
      (.beside (.others _ (.sendTo first.id "hello")))).tail
      (.ticks rfl rfl rfl)).tail
      (.writes rfl rfl)).tail
      (.ticks rfl rfl rfl)).tail
      (.expires rfl rfl rfl)), ⟨_, [], rfl, rfl⟩, rfl⟩
  have hWatched := heartbeat_verdict rfl hRun
  obtain ⟨hSilent, hFirst⟩ := (hWatched.verdict 4).1 hGivesUp
  exact ⟨hs, l, hRun, hGivesUp, hSilent, hFirst 3 (by decide),
    Nat.succ.inj (hWatched.last 4 hGivesUp).2.2, hFrames, hWatched⟩

end Life

end ChatRelay
