import ChatRelay.Proofs.Ledger
import ChatRelay.Proofs.Trail

/-! Runs with a record.  A `Record` is a relay with the list of what was performed on it so far; a `Throng`
is one with any number of activities under way, which take turns in any order, with others about who may
perform any action.  `Record.Turns.keeps` takes what one entry preserves to a whole record, and
`Throng.Run.heeded` what the activities heed to their entries. -/

namespace ChatRelay

open Relation (ReflTransGen)

/-- An action of a run, with the relay before and after.  `strand?` is the activity that performed it, if
it was one of those under way. -/
structure Entry where
  strand? : Option Nat
  before : Relay
  done : Performed
  after : Relay

/-- An entry says what was done, or that a call on the store failed and nothing was done. -/
inductive Entry.Honest : Entry → Prop
  | performed (strand? : Option Nat) (r : Relay) (action : Action) :
      Honest ⟨strand?, r, action.performed r, (action.perform r).2⟩
  | failed (strand? : Option Nat) (r : Relay) (c : Store.Call) (cause : Store.Error) :
      Honest ⟨strand?, r, ⟨.call c, .error cause⟩, r⟩

theorem Performed.succeeded_of_not_call {e : Performed} (h : ∀ c, e.action ≠ .call c) : e.Succeeded := by
  obtain ⟨action, answer⟩ := e
  cases action with
  | call c => exact absurd rfl (h c)
  | _ => trivial

/-- An entry of an action that succeeded says what the action did. -/
theorem Entry.Honest.perform {e : Entry} (h : e.Honest) (hOk : e.done.Succeeded) :
    e.done = e.done.action.performed e.before ∧ e.after = (e.done.action.perform e.before).2 := by
  cases h with
  | performed strand? r action => exact ⟨rfl, rfl⟩
  | failed strand? r c cause => exact hOk.elim

theorem split_concat {log a b : List Entry} {e e' : Entry} (h : log ++ [e] = a ++ e' :: b) :
    (a = log ∧ e' = e ∧ b = []) ∨ ∃ b', log = a ++ e' :: b' ∧ b = b' ++ [e] := by
  rcases List.eq_nil_or_concat' b with rfl | ⟨b', last, rfl⟩
  · obtain ⟨rfl, hLast⟩ := List.append_inj' h rfl
    exact .inl ⟨rfl, (List.singleton_inj.1 hLast).symm, rfl⟩
  · rw [← List.cons_append, ← List.append_assoc] at h
    obtain ⟨rfl, hLast⟩ := List.append_inj' h rfl
    exact .inr ⟨b', rfl, by rw [List.singleton_inj.1 hLast]⟩

/-! ### Records -/

/-- A relay with what was performed on it so far. -/
structure Record where
  relay : Relay
  log : List Entry := []

namespace Record

/-- What was performed, in order. -/
def past (p : Record) : List Performed :=
  p.log.map (·.done)

/-- A record goes on by an entry, or the reading end of a queue is dropped. -/
inductive Turn : Record → Record → Prop
  | entry (e : Entry) (log : List Entry) (h : e.Honest) : Turn ⟨e.before, log⟩ ⟨e.after, log ++ [e]⟩
  | dropReader (p : Record) (id : ConnectionId) :
      Turn p { p with relay.registry := p.relay.registry.dropReader id }

abbrev Turns : Record → Record → Prop :=
  ReflTransGen Turn

variable {p p' : Record}

/-- What each turn preserves holds at the end of a record, and held at each of its entries. -/
theorem Turns.keeps {P : Relay → List Entry → Prop}
    (hEntry : ∀ e log, e.Honest → P e.before log → P e.after (log ++ [e]))
    (hDrop : ∀ r log id, P r log → P { r with registry := r.registry.dropReader id } log)
    (hTurns : Turns p p') (hLog : p.log = []) (h : P p.relay []) :
    P p'.relay p'.log ∧
      ∀ a e b, p'.log = a ++ e :: b → e.Honest ∧ P e.before a ∧ P e.after (a ++ [e]) := by
  induction hTurns with
  | refl => exact ⟨hLog ▸ h, by simp [hLog]⟩
  | tail _ hTurn ih =>
    obtain ⟨hNow, hThen⟩ := ih
    cases hTurn with
    | dropReader id => exact ⟨hDrop _ _ _ hNow, hThen⟩
    | entry e log hHonest =>
      have hAfter := hEntry e log hHonest hNow
      refine ⟨hAfter, fun a e' b hSplit => ?_⟩
      rcases split_concat hSplit with ⟨rfl, rfl, rfl⟩ | ⟨b', hOld, -⟩
      · exact ⟨hHonest, hNow, hAfter⟩
      · exact hThen a e' b' hOld

theorem Turns.past_grows (hTurns : Turns p p') : p.past <+: p'.past := by
  induction hTurns with
  | refl => exact List.prefix_rfl
  | tail _ hTurn ih =>
    refine ih.trans ?_
    cases hTurn with
    | entry e log h => exact (List.prefix_append log [e]).map _
    | dropReader id => exact List.prefix_rfl

theorem Turns.honest (hTurns : Turns p p') (hLog : p.log = []) {e : Entry} (he : e ∈ p'.log) : e.Honest := by
  obtain ⟨a, b, hSplit⟩ := List.append_of_mem he
  exact ((hTurns.keeps (P := fun _ _ => True) (fun _ _ _ _ => trivial) (fun _ _ _ _ => trivial) hLog
    trivial).2 a e b hSplit).1

end Record

/-- The ledger of a record. -/
theorem Entry.Honest.ledger {e : Entry} {log : List Entry} (h : e.Honest)
    (hLedger : Ledger e.before.registry (log.map (·.done))) :
    Ledger e.after.registry ((log ++ [e]).map (·.done)) := by
  rw [List.map_append]
  cases h with
  | performed strand? r action => exact hLedger.perform action
  | failed strand? r c cause => exact hLedger.fail c cause

theorem Record.Turns.ledger {p p' : Record} (hTurns : p.Turns p') (hLog : p.log = [])
    (hNobody : p.relay.registry.clients = []) :
    Ledger p'.relay.registry p'.past ∧ ∀ a e b, p'.log = a ++ e :: b →
      e.Honest ∧ Ledger e.before.registry (a.map (·.done)) ∧
        Ledger e.after.registry ((a ++ [e]).map (·.done)) :=
  hTurns.keeps (P := fun r log => Ledger r.registry (log.map Entry.done))
    (fun _ _ hHonest h => hHonest.ledger h) (fun _ _ id h => Ledger.dropReader h id) hLog
    (.of_nobody hNobody)

/-! ### Activities side by side -/

/-- A record with activities under way. -/
structure Throng (κ α : Type) extends Record where
  strands : List (Strand κ α) := []

namespace Throng

variable {κ α : Type}

/-- One of the activities goes on, by an entry after which `rest` is left of it. -/
def advance (p : Throng κ α) (n : Nat) (t : Strand κ α) (rest : Activity α) (e : Entry) :
    Throng κ α where
  relay := e.after
  log := p.log ++ [e]
  strands := p.strands.set n { t with rest, past := t.past ++ [e.done] }

/-- One thing that happens: an activity starts, performs its next action, or finds that a call on the store
fails; somebody else performs an action; or the reading end of a queue is dropped. -/
inductive Step (program : κ → Activity α) : Throng κ α → Throng κ α → Prop
  | starts (p : Throng κ α) (k : κ) :
      Step program p { p with strands := p.strands ++ [⟨k, program k, []⟩] }
  | performs (p : Throng κ α) {n : Nat} {t : Strand κ α} {action : Action}
      {next : action.Answer → Activity α} (hStrand : p.strands[n]? = some t)
      (hRest : t.rest = .act action next) :
      Step program p (p.advance n t (next (action.perform p.relay).1)
        ⟨some n, p.relay, action.performed p.relay, (action.perform p.relay).2⟩)
  | fails (p : Throng κ α) {n : Nat} {t : Strand κ α} {c : Store.Call}
      {next : (Action.call c).Answer → Activity α} (cause : Store.Error) (hStrand : p.strands[n]? = some t)
      (hRest : t.rest = .act (.call c) next) :
      Step program p (p.advance n t (next (.error cause))
        ⟨some n, p.relay, ⟨.call c, .error cause⟩, p.relay⟩)
  | others (p : Throng κ α) (action : Action) :
      Step program p { p with
        relay := (action.perform p.relay).2
        log := p.log ++ [⟨none, p.relay, action.performed p.relay, (action.perform p.relay).2⟩] }
  | dropsReader (p : Throng κ α) (id : ConnectionId) :
      Step program p { p with relay.registry := p.relay.registry.dropReader id }

/-- What can come about from a relay on which nothing is under way. -/
def Run (program : κ → Activity α) (start : Relay) (p : Throng κ α) : Prop :=
  ReflTransGen (Step program) { relay := start } p

variable {program : κ → Activity α} {start : Relay} {p p' : Throng κ α}
  {may : κ → List Performed → Action → Prop} {ends : κ → List Performed → α → Prop}

theorem Step.turns (h : Step program p p') : p.toRecord.Turns p'.toRecord := by
  cases h with
  | starts k => exact .refl
  | performs hStrand hRest => exact .single (.entry _ p.log (.performed ..))
  | fails cause hStrand hRest => exact .single (.entry _ p.log (.failed ..))
  | others action => exact .single (.entry _ p.log (.performed none p.relay action))
  | dropsReader id => exact .single (.dropReader p.toRecord id)

theorem turns_of_steps (h : ReflTransGen (Step program) p p') : p.toRecord.Turns p'.toRecord := by
  induction h with
  | refl => exact .refl
  | tail _ hStep ih => exact ih.trans hStep.turns

theorem Run.turns (h : Run program start p) : Record.Turns { relay := start } p.toRecord :=
  turns_of_steps h

theorem Step.length_le (h : Step program p p') : p.strands.length ≤ p'.strands.length := by
  cases h with
  | starts k => simp
  | performs hStrand hRest => simp [advance]
  | fails cause hStrand hRest => simp [advance]
  | others action => exact Nat.le_refl _
  | dropsReader id => exact Nat.le_refl _

/-- One of the activities can go on alone to its end. -/
theorem exists_steps_done (program : κ → Activity α) {n : Nat} {t : Strand κ α}
    (hStrand : p.strands[n]? = some t) :
    ∃ (p' : Throng κ α) (past : List Performed), ReflTransGen (Step program) p p' ∧
      p'.strands[n]? = some ⟨t.label, .done (t.rest.run p.relay).1, past⟩ ∧
        p'.relay = (t.rest.run p.relay).2 := by
  obtain ⟨k, rest, past⟩ := t
  induction rest generalizing p past with
  | done result => exact ⟨p, past, .refl, hStrand, rfl⟩
  | act action next ih =>
    have hStep : Step program p _ := .performs p hStrand rfl
    have hLength : n < p.strands.length := (List.getElem?_eq_some_iff.1 hStrand).1
    obtain ⟨p', past', hSteps, hMore⟩ := ih (p := p.advance n ⟨k, .act action next, past⟩ _ _) _ _
      (List.getElem?_set_self hLength)
    exact ⟨p', past', .head hStep hSteps, hMore⟩

/-! ### Whose entries -/

/-- What one of the activities has performed, by the log. -/
def own (n : Nat) (log : List Entry) : List Performed :=
  (log.filter (·.strand? = some n)).map (·.done)

/-- What others have performed, by the log. -/
def foreign (log : List Entry) : List Performed :=
  (log.filter (·.strand? = none)).map (·.done)

theorem own_concat (n : Nat) (log : List Entry) (e : Entry) :
    own n (log ++ [e]) = own n log ++ if e.strand? = some n then [e.done] else [] := by
  unfold own
  rw [List.filter_append, List.map_append]
  by_cases h : e.strand? = some n <;> simp [h]

theorem exists_of_mem_own {n : Nat} {log : List Entry} {done : Performed} (h : done ∈ own n log) :
    ∃ e ∈ log, e.strand? = some n ∧ e.done = done := by
  obtain ⟨e, he, hDone⟩ := List.mem_map.1 h
  obtain ⟨hMem, hMine⟩ := List.mem_filter.1 he
  exact ⟨e, hMem, by simpa using hMine, hDone⟩

theorem foreign_concat (log : List Entry) (e : Entry) :
    foreign (log ++ [e]) = foreign log ++ if e.strand? = none then [e.done] else [] := by
  unfold foreign
  rw [List.filter_append, List.map_append]
  by_cases h : e.strand? = none <;> simp [h]

/-- Each activity has performed what the log says, and was allowed to when it did; and it still heeds what
it may do. -/
structure Heeded (may : κ → List Performed → Action → Prop) (ends : κ → List Performed → α → Prop)
    (p : Throng κ α) : Prop where
  past : ∀ n, own n p.log = (p.strands[n]?.map (·.past)).getD []
  rest : ∀ t ∈ p.strands, t.rest.Heeds (may t.label) (ends t.label) t.past
  log : ∀ a e b, p.log = a ++ e :: b → ∀ n, e.strand? = some n →
    ∃ t, p.strands[n]? = some t ∧ may t.label (own n a) e.done.action

namespace Heeded

theorem past_eq (h : p.Heeded may ends) {n : Nat} {t : Strand κ α} (hStrand : p.strands[n]? = some t) :
    own n p.log = t.past := by
  rw [h.past, hStrand]
  rfl

theorem advance (h : p.Heeded may ends) {n : Nat} {t : Strand κ α} {rest : Activity α} {e : Entry}
    (hStrand : p.strands[n]? = some t) (hEntry : e.strand? = some n)
    (hMay : may t.label t.past e.done.action)
    (hRest : rest.Heeds (may t.label) (ends t.label) (t.past ++ [e.done])) :
    (p.advance n t rest e).Heeded may ends := by
  have hLength : n < p.strands.length := (List.getElem?_eq_some_iff.1 hStrand).1
  refine ⟨fun m => ?_, fun u hu => ?_, fun a e' b hSplit m hm => ?_⟩
  · simp only [Throng.advance, own_concat, hEntry, Option.some.injEq, List.getElem?_set, if_pos hLength]
    by_cases hm : n = m
    · subst hm
      simp [h.past_eq hStrand]
    · simp [hm, h.past m]
  · rcases List.mem_or_eq_of_mem_set hu with hu | rfl
    · exact h.rest u hu
    · exact hRest
  · rcases split_concat hSplit with ⟨rfl, rfl, -⟩ | ⟨b', hOld, -⟩
    · obtain rfl : n = m := by simpa [hEntry] using hm
      refine ⟨_, List.getElem?_set_self hLength, ?_⟩
      rwa [h.past_eq hStrand]
    · obtain ⟨u, hu, hMayThen⟩ := h.log a e' b' hOld m hm
      by_cases hSame : n = m
      · subst hSame
        obtain rfl : t = u := Option.some.inj (hStrand.symm.trans hu)
        exact ⟨_, List.getElem?_set_self hLength, hMayThen⟩
      · exact ⟨u, (List.getElem?_set_ne hSame).trans hu, hMayThen⟩

theorem step (h : p.Heeded may ends) (hProgram : ∀ k, (program k).Heeds (may k) (ends k) [])
    (hStep : Step program p p') : p'.Heeded may ends := by
  cases hStep with
  | starts k =>
    refine ⟨fun n => ?_, fun u hu => ?_, fun a e b hSplit n hn => ?_⟩
    · simp only [h.past n, List.getElem?_append]
      split
      · rfl
      · rename_i hLength
        rw [List.getElem?_eq_none (Nat.le_of_not_lt hLength)]
        rcases n - p.strands.length with _ | m <;> simp
    · rcases List.mem_append.1 hu with hu | hu
      · exact h.rest u hu
      · obtain rfl := List.mem_singleton.1 hu
        exact hProgram k
    · obtain ⟨u, hu, hMay⟩ := h.log a e b hSplit n hn
      exact ⟨u, (List.getElem?_append_left (List.getElem?_eq_some_iff.1 hu).1).trans hu, hMay⟩
  | performs hStrand hRest =>
    have hHeeds := h.rest _ (List.mem_of_getElem? hStrand)
    rw [hRest] at hHeeds
    exact h.advance hStrand rfl hHeeds.1 (hHeeds.2 _)
  | fails cause hStrand hRest =>
    have hHeeds := h.rest _ (List.mem_of_getElem? hStrand)
    rw [hRest] at hHeeds
    exact h.advance hStrand rfl hHeeds.1 (hHeeds.2 _)
  | others action =>
    refine ⟨fun n => ?_, h.rest, fun a e b hSplit n hn => ?_⟩
    · rw [← h.past n, own_concat]
      simp
    · rcases split_concat hSplit with ⟨rfl, rfl, -⟩ | ⟨b', hOld, -⟩
      · simp at hn
      · exact h.log a e b' hOld n hn
  | dropsReader id => exact ⟨h.past, h.rest, h.log⟩

end Heeded

/-- In every run of activities that heed what they may do, each entry of theirs was allowed. -/
theorem Run.heeded (h : Run program start p) (hProgram : ∀ k, (program k).Heeds (may k) (ends k) []) :
    p.Heeded may ends := by
  induction h with
  | refl => exact ⟨fun n => rfl, by simp, by simp⟩
  | tail _ hStep ih => exact ih.step hProgram hStep

/-! ### Counting -/

theorem sum_map_set {l : List (Strand κ α)} {n : Nat} {t : Strand κ α} (h : l[n]? = some t)
    (t' : Strand κ α) (f : Strand κ α → Nat) : ((l.set n t').map f).sum + f t = (l.map f).sum + f t' := by
  induction l generalizing n with
  | nil => simp at h
  | cons first rest ih =>
    cases n with
    | zero =>
      obtain rfl : first = t := by simpa using h
      simp only [List.set_cons_zero, List.map_cons, List.sum_cons]
      omega
    | succ n =>
      have hRest := ih (n := n) (by simpa using h)
      simp only [List.set_cons_succ, List.map_cons, List.sum_cons]
      omega

theorem countP_advance {n : Nat} {t : Strand κ α} {e : Entry} (f : Performed → Bool) (rest : Activity α)
    (hStrand : p.strands[n]? = some t) (hEntry : e.strand? = some n)
    (h : (p.strands.map fun t => t.past.countP f).sum + (foreign p.log).countP f = p.past.countP f) :
    ((p.advance n t rest e).strands.map fun t => t.past.countP f).sum +
      (foreign (p.advance n t rest e).log).countP f = (p.advance n t rest e).past.countP f := by
  have hSum := sum_map_set hStrand { t with rest, past := t.past ++ [e.done] } fun t => t.past.countP f
  simp only [Throng.advance, Record.past, foreign_concat, hEntry, List.map_append, List.countP_append,
    List.map_singleton, reduceCtorEq, if_false, List.append_nil] at hSum h ⊢
  omega

/-- What was performed was performed by one of the activities or by others. -/
theorem Run.countP (h : Run program start p) (f : Performed → Bool) :
    (p.strands.map fun t => t.past.countP f).sum + (foreign p.log).countP f = p.past.countP f := by
  induction h with
  | refl => rfl
  | tail _ hStep ih =>
    cases hStep with
    | starts k => simpa [Record.past] using ih
    | performs hStrand hRest => exact countP_advance f _ hStrand rfl ih
    | fails cause hStrand hRest => exact countP_advance f _ hStrand rfl ih
    | others action =>
      simp only [Record.past, foreign_concat, List.map_append, List.countP_append, List.map_singleton,
        if_true] at ih ⊢
      omega
    | dropsReader id => exact ih

end Throng

end ChatRelay
