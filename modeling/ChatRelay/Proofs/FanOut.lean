import ChatRelay.Proofs.Chronicle
import ChatRelay.Proofs.Traffic

/-! Fan-outs side by side.  A fan-out offers its frame in one action and then ends the slow connections, one
action each; others may act in between, and two fan-outs may want to end the same connection.  `Reach` says
what a fan-out that has returned has done for each connection, and `fan_outs_miss_nobody` that every
fan-out of a run has, and that every removal was counted once. -/

namespace ChatRelay

open Registry (Audience)

/-! ### Entries of a fan-out -/

theorem Entry.Honest.offer {e : Entry} {audience : Audience} {frame : Frame} {report : Registry.Offer}
    (h : e.Honest) (hDone : e.done = ⟨.offer audience frame, report⟩) :
    report = (e.before.registry.offer audience frame).1 ∧
      e.after.registry = (e.before.registry.offer audience frame).2 := by
  obtain ⟨hAnswer, hAfter⟩ := h.perform (hDone ▸ trivial)
  rw [hDone] at hAnswer hAfter
  injection hAnswer with _ hReport
  exact ⟨hReport, congrArg Relay.registry hAfter⟩

theorem Entry.Honest.unregister {e : Entry} {id : ConnectionId} (h : e.Honest)
    (hDone : e.done.action = .unregister id) :
    e.after.registry = (e.before.registry.unregister id).2 := by
  obtain ⟨-, hAfter⟩ := h.perform (Performed.succeeded_of_not_call (by simp [hDone]))
  rw [hAfter, hDone]
  rfl

theorem Entry.Honest.outbox?_of_unregister {e : Entry} {slow : ConnectionId} (h : e.Honest)
    (hDone : e.done.action = .unregister slow) (id : ConnectionId) :
    e.after.registry.outbox? id = none ∨
      e.after.registry.outbox? id = e.before.registry.outbox? id := by
  rw [h.unregister hDone]
  by_cases hSame : id = slow
  · exact .inl (hSame ▸ Registry.outbox?_unregister ..)
  · exact .inr (Registry.outbox?_unregister_of_ne hSame _)

/-- A connection that was registered, and whose registration was ended later, is not registered any more,
whoever ended it. -/
theorem Record.Turns.outbox?_eq_none {p p' : Record} (hTurns : p.Turns p') (hLog : p.log = [])
    (hNobody : p.relay.registry.clients = []) {a b : List Entry} {e e' : Entry} {id : ConnectionId}
    (hOnce : (joined p'.past).count id ≤ 1) (hSplit : p'.log = a ++ e :: b)
    (hThere : e.before.registry.isRegistered id) (hLater : e' ∈ b) (hEnd : e'.done.action = .unregister id) :
    p'.relay.registry.outbox? id = none := by
  obtain ⟨hLedger, hThen⟩ := hTurns.ledger hLog hNobody
  obtain ⟨b₁, b₂, rfl⟩ := List.append_of_mem hLater
  have hSplit' : p'.log = (a ++ e :: b₁) ++ e' :: b₂ := by rw [hSplit]; simp
  obtain ⟨-, hBefore, -⟩ := hThen _ _ _ hSplit
  obtain ⟨hHonest, -, hAfter⟩ := hThen _ _ _ hSplit'
  have hPast : p'.past = (a.map (·.done)) ++ ((e :: (b₁ ++ e' :: b₂)).map (·.done)) := by
    rw [Record.past, hSplit, List.map_append]
  have hPast' : p'.past = (((a ++ e :: b₁) ++ [e']).map (·.done)) ++ (b₂.map (·.done)) := by
    rw [Record.past, hSplit']; simp
  -- It has joined by the first entry, so that by the second it has left.
  have hJoined := hBefore.balance id (Ledger.count_joined_le (hPast ▸ hOnce))
  have hLeft := hAfter.balance id (Ledger.count_joined_le (hPast' ▸ hOnce))
  have hPresent := List.count_pos_iff.2 ((Registry.mem_present hBefore.tidy.distinct).2 hThere)
  have hAbsent : e'.after.registry.present.count id = 0 := by
    rw [List.count_eq_zero, Registry.mem_present hAfter.tidy.distinct, hHonest.unregister hEnd,
      Registry.isRegistered_unregister]
    exact Bool.false_ne_true
  have hMore : (joined (((a ++ e :: b₁) ++ [e']).map (·.done))).count id =
      (joined (a.map (·.done))).count id + (joined ((e :: (b₁ ++ [e'])).map (·.done))).count id := by
    rw [← List.count_append, ← joined_append, ← List.map_append]
    simp
  refine hLedger.outbox?_eq_none hOnce ?_
  rw [hPast', left_append]
  exact List.mem_append_left _ (List.count_pos_iff.1 (by omega))

/-! ### What a fan-out reaches -/

theorem Outbox.push_ne (o : Outbox) (frame : Frame) : o.push frame ≠ o := by
  intro hSame
  have hLength := congrArg (·.frames.length) hSame
  simp [push] at hLength

/-- What an offer does to a queue, by what becomes of the frame. -/
theorem Outbox.offer_cases (o : Outbox) (capacity : Nat) (frame : Frame) :
    (o.readerGone = false ∧ o.offer capacity frame = o.push frame) ∨
      (o.readerGone = true ∧ o.offer capacity frame = o) ∨
        (o.fate capacity = .refused ∧ o.readerGone = false ∧ capacity ≤ o.frames.length ∧
          o.offer capacity frame = o) := by
  unfold offer fate
  by_cases hReader : o.readerGone
  · simp [hReader]
  · by_cases hRoom : o.frames.length < capacity
    · simp [hReader, hRoom]
    · simp [hReader, hRoom, Nat.not_lt.1 hRoom]

/-- A frame for an audience. -/
structure FanOut where
  audience : Audience
  frame : Frame

def FanOut.activity (f : FanOut) : Activity Delivery :=
  deliver f.audience f.frame

/-- Exactly one of three. -/
def ExactlyOne (a b c : Prop) : Prop :=
  (a ∧ ¬ b ∧ ¬ c) ∨ (¬ a ∧ b ∧ ¬ c) ∨ (¬ a ∧ ¬ b ∧ c)

/-- What a fan-out has done by `now`: `e` is its offer, and `rest` are its other entries. -/
structure FanOut.Reach (f : FanOut) (e : Entry) (rest : List Entry) (now : Relay) : Prop where
  offer : e.done.action = .offer f.audience f.frame
  /-- A connection of the audience that was registered at the offer has got the frame at the end of its
  queue, or its reading end was gone; or its queue was full, and it is not registered any more. -/
  audience : ∀ id o, e.before.registry.outbox? id = some o →
    id.user ∈ f.audience.listed e.before.registry →
    ExactlyOne (e.after.registry.outbox? id = some (o.push f.frame)) (o.readerGone = true)
      (o.readerGone = false ∧ e.before.registry.capacity ≤ o.frames.length ∧
        e.after.registry.outbox? id = some o ∧ now.registry.isRegistered id = false)
  /-- The others' queues were left alone by the offer. -/
  outside : ∀ id, id.user ∉ f.audience.listed e.before.registry →
    e.after.registry.outbox? id = e.before.registry.outbox? id
  /-- The rest put no frame in any queue. -/
  rest : ∀ e' ∈ rest, ∀ id, e'.after.registry.outbox? id = none ∨
    e'.after.registry.outbox? id = e'.before.registry.outbox? id

namespace Throng

variable {start : Relay} {p : Throng FanOut Delivery}

/-- The entries of a fan-out that has returned: its offer comes first, and then it ends each connection that
was too slow, and does nothing else. -/
theorem entries_of_returned (h : p.Heeded (fun f => MayFanOut f.audience f.frame)
    fun f => FannedOut f.audience f.frame) {n : Nat} {t : Strand FanOut Delivery} {d : Delivery}
    (hStrand : p.strands[n]? = some t) (hReturned : t.rest = .done d) :
    ∃ a e b report, p.log = a ++ e :: b ∧ (∀ e' ∈ a, e'.strand? ≠ some n) ∧ e.strand? = some n ∧
      e.done = ⟨.offer t.label.audience t.label.frame, report⟩ ∧
      (own n b).map (·.action) = report.slow.map .unregister ∧ d.shed = (left t.past).length := by
  have hRest := h.rest t (List.mem_of_getElem? hStrand)
  rw [hReturned] at hRest
  obtain ⟨⟨report, more, hPast, hMore⟩, hShed⟩ := hRest
  have hOwn := h.past_eq hStrand
  rw [hPast, own] at hOwn
  obtain ⟨e, entries, hFilter, hDone, rfl⟩ := List.map_eq_cons_iff.1 hOwn
  obtain ⟨a, b, hLog, hBefore, hEntry, rfl⟩ := List.filter_eq_cons_iff.1 hFilter
  refine ⟨a, e, b, report, hLog, ?_, by simpa using hEntry, hDone, hMore, hShed⟩
  exact fun e' he' hSame => hBefore e' he' (by simpa using hSame)

/-- A connection that a fan-out has reported as slow, and that it has tried to remove since, is not
registered any more. -/
theorem outbox?_eq_none_of_slow (hNobody : start.registry.clients = []) (hRun : Run FanOut.activity start p)
    (hFresh : (joined p.past).Nodup) {n : Nat} {a b : List Entry} {e : Entry} {slow : List ConnectionId}
    (hLog : p.log = a ++ e :: b) (hSlow : (own n b).map (·.action) = slow.map .unregister)
    {id : ConnectionId} (hReported : id ∈ slow) (hThere : e.before.registry.isRegistered id) :
    p.relay.registry.outbox? id = none := by
  have hEnd : Action.unregister id ∈ (own n b).map (·.action) := hSlow ▸ List.mem_map_of_mem hReported
  obtain ⟨done, hOwn, hAction⟩ := List.mem_map.1 hEnd
  obtain ⟨e', he', rfl⟩ := List.mem_map.1 hOwn
  exact hRun.turns.outbox?_eq_none rfl hNobody (List.nodup_iff_count_le_one.1 hFresh id) hLog hThere
    (List.mem_of_mem_filter he') hAction

theorem reach_of_returned (hNobody : start.registry.clients = []) (hRun : Run FanOut.activity start p)
    (hFresh : (joined p.past).Nodup) {n : Nat} {t : Strand FanOut Delivery} {d : Delivery}
    (hStrand : p.strands[n]? = some t) (hReturned : t.rest = .done d)
    (hMembers : ∀ ids, t.label.audience = .users ids → ids.Nodup) :
    ∃ a e b, p.log = a ++ e :: b ∧ e.strand? = some n ∧
      t.label.Reach e ((a ++ b).filter (·.strand? = some n)) p.relay := by
  have hHeeded := hRun.heeded fun f : FanOut => deliver_heeds f.audience f.frame
  obtain ⟨a, e, b, report, hLog, hFirst, hEntry, hDone, hSlow, -⟩ :=
    entries_of_returned hHeeded hStrand hReturned
  obtain ⟨-, hThen⟩ := hRun.turns.ledger rfl hNobody
  obtain ⟨hHonest, hBefore, -⟩ := hThen a e b hLog
  obtain ⟨rfl, hAfter⟩ := hHonest.offer hDone
  have hListed : (t.label.audience.listed e.before.registry).Nodup := by
    rcases hAudience : t.label.audience with _ | ids
    · exact hBefore.tidy.distinct
    · exact hMembers ids hAudience
  refine ⟨a, e, b, hLog, hEntry, ?_, fun id o hQueue hUser => ?_, fun id hUser => ?_, ?_⟩
  · rw [hDone]
  · have hOther := o.push_ne t.label.frame
    rw [hAfter, Registry.offer, Registry.outbox?_foldl_offerUser hListed, hQueue, if_pos hUser,
      Option.map_some, ExactlyOne]
    obtain ⟨hReader, hOffer⟩ | ⟨hReader, hOffer⟩ | ⟨hFate, hReader, hFull, hOffer⟩ :=
      o.offer_cases e.before.registry.capacity t.label.frame
    · simp [hReader, hOffer, hOther]
    · simp [hReader, hOffer, hOther.symm]
    · -- It was reported as slow, so that this fan-out has tried to end its registration since.
      have hReported := Registry.mem_slow_offer hListed hUser hQueue hFate t.label.frame
      have hThere : e.before.registry.isRegistered id := by rw [Registry.isRegistered, hQueue]; rfl
      have hGone := outbox?_eq_none_of_slow hNobody hRun hFresh hLog hSlow hReported hThere
      have hNot : p.relay.registry.isRegistered id = false := by rw [Registry.isRegistered, hGone]; rfl
      simp [hReader, hFull, hOffer, hNot, hOther.symm]
  · rw [hAfter, Registry.offer, Registry.outbox?_foldl_offerUser hListed, if_neg hUser]
  · intro e' he' id
    obtain ⟨hMem, hMine⟩ := List.mem_filter.1 he'
    rcases List.mem_append.1 hMem with hMem | hMem
    · exact absurd (by simpa using hMine) (hFirst e' hMem)
    have hOwn : e'.done.action ∈ (own n b).map (·.action) :=
      List.mem_map_of_mem (List.mem_map_of_mem (List.mem_filter.2 ⟨hMem, hMine⟩))
    rw [hSlow] at hOwn
    obtain ⟨slow, -, hAction⟩ := List.mem_map.1 hOwn
    obtain ⟨b₁, b₂, rfl⟩ := List.append_of_mem hMem
    obtain ⟨hLater, -⟩ := hThen (a ++ e :: b₁) e' b₂ (by rw [hLog]; simp)
    exact hLater.outbox?_of_unregister hAction.symm id

/-- How many connections a fan-out reports to have ended, once it has returned. -/
def shedBy (t : Strand FanOut Delivery) : Nat :=
  match t.rest with
  | .done d => d.shed
  | .act .. => 0

theorem sum_shedBy (h : p.Heeded (fun f => MayFanOut f.audience f.frame)
    fun f => FannedOut f.audience f.frame) (hReturned : ∀ t ∈ p.strands, ∃ d, t.rest = .done d) :
    (p.strands.map shedBy).sum = (p.strands.map fun t => t.past.countP (·.left?.isSome)).sum := by
  congr 1
  refine List.map_congr_left fun t ht => ?_
  obtain ⟨d, hd⟩ := hReturned t ht
  have hRest := h.rest t ht
  rw [hd] at hRest
  rw [shedBy, hd, ← length_left]
  exact hRest.shed

/-- No connection silently misses a frame.  Take any run of fan-outs side by side, with others who do what
they like in between, from a start with nobody connected, in which no id is registered twice.  A fan-out that
lists no member twice has, when it has returned, reached every connection of its audience that was
registered at its offer, or its reading end was gone, or its queue was full and it is not registered any
more; and it has put its frame in no other queue.  When all have returned, the connections that they report
to have ended and those that others have ended are together the connections that were removed. -/
theorem fan_outs_miss_nobody (hNobody : start.registry.clients = [])
    (hRun : Run FanOut.activity start p) (hFresh : (joined p.past).Nodup) :
    (∀ n t d, p.strands[n]? = some t → t.rest = .done d →
      (∀ ids, t.label.audience = .users ids → ids.Nodup) →
      ∃ a e b, p.log = a ++ e :: b ∧ e.strand? = some n ∧
        t.label.Reach e ((a ++ b).filter (·.strand? = some n)) p.relay) ∧
    ((∀ t ∈ p.strands, ∃ d, t.rest = .done d) →
      (p.strands.map shedBy).sum + (left (foreign p.log)).length =
        (joined p.past).countP fun id => ! p.relay.registry.isRegistered id) := by
  refine ⟨fun n t d hStrand hReturned hMembers => ?_, fun hReturned => ?_⟩
  · exact reach_of_returned hNobody hRun hFresh hStrand hReturned hMembers
  · have hHeeded := hRun.heeded fun f : FanOut => deliver_heeds f.audience f.frame
    rw [sum_shedBy hHeeded hReturned, length_left, hRun.countP, ← length_left]
    exact ((hRun.turns.ledger rfl hNobody).1.countP_removed hFresh).symm

/-- Two fan-outs find the same queue full, and both try to end its registration. -/
theorem fan_outs_miss_nobody_both_slow :
    ∃ p : Throng FanOut Delivery, Run FanOut.activity (.ofDatabase .fresh 1) p ∧
      p.strands.map shedBy = [0, 1] ∧
      (∀ n t d, p.strands[n]? = some t → t.rest = .done d →
        (∀ ids, t.label.audience = .users ids → ids.Nodup) →
        ∃ a e b, p.log = a ++ e :: b ∧ e.strand? = some n ∧
          t.label.Reach e ((a ++ b).filter (·.strand? = some n)) p.relay) ∧
      ((∀ t ∈ p.strands, ∃ d, t.rest = .done d) →
        (p.strands.map shedBy).sum + (left (foreign p.log)).length =
          (joined p.past).countP fun id => ! p.relay.registry.isRegistered id) := by
  have hRun := ((((((((Relation.ReflTransGen.refl (r := Step FanOut.activity)
    (a := { relay := .ofDatabase .fresh 1 })).tail
    (.others _ (.register ⟨"ann", .zero⟩))).tail
    (.others _ (.sendTo ⟨"ann", .zero⟩ "first"))).tail
    (.starts _ ⟨.users ["ann"], "second"⟩)).tail
    (.starts _ ⟨.everyone, "third"⟩)).tail
    (.performs _ (n := 0) rfl rfl)).tail
    (.performs _ (n := 1) rfl rfl)).tail
    (.performs _ (n := 1) rfl rfl)).tail
    (.performs _ (n := 0) rfl rfl)
  exact ⟨_, hRun, rfl, fan_outs_miss_nobody rfl hRun (by decide)⟩

end Throng

end ChatRelay
