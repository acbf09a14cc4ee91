import ChatRelay.Proofs.Interleaving

/-! What an activity does, given what it has done.  `Heeds` walks the tree of an activity as `Always` does,
but with the actions so far and their answers at hand: each action is one that `may` come then, and the
activity ends with a value that fits what was performed. -/

namespace ChatRelay

namespace Activity

variable {α β : Type} {may may' : List Performed → Action → Prop}
  {ends ends' : List Performed → α → Prop} {past : List Performed}

/-- The actions of an activity that is run alone, with their answers. -/
def trail : Activity α → Relay → List Performed
  | done _, _ => []
  | act action next, r => action.performed r :: (next (action.perform r).1).trail (action.perform r).2

/-- Whatever its actions answer, each of them is one that `may` come after what was performed by then, and
the activity ends as `ends` says. -/
def Heeds (may : List Performed → Action → Prop) (ends : List Performed → α → Prop) :
    Activity α → List Performed → Prop
  | done a, past => ends past a
  | act action next, past =>
    may past action ∧ ∀ answer, (next answer).Heeds may ends (past ++ [⟨action, answer⟩])

theorem Heeds.mono {t : Activity α} (h : t.Heeds may ends past)
    (hMay : ∀ past action, may past action → may' past action)
    (hEnds : ∀ past a, ends past a → ends' past a) : t.Heeds may' ends' past := by
  induction t generalizing past with
  | done a => exact hEnds past a h
  | act action next ih => exact ⟨hMay past action h.1, fun answer => ih answer (h.2 answer)⟩

theorem heeds_bind (t : Activity α) (f : α → Activity β) {ends : List Performed → β → Prop} :
    (t >>= f).Heeds may ends past ↔ t.Heeds may (fun past a => (f a).Heeds may ends past) past := by
  induction t generalizing past with
  | done a => exact .rfl
  | act action next ih => exact and_congr .rfl (forall_congr' fun answer => ih answer)

/-- Where every action of an activity is `ok`, it heeds what `ok` actions may do. -/
theorem Heeds.of_always {ok : Action → Prop} {last : α → Prop} {t : Activity α} (h : t.Always ok last)
    (hMay : ∀ past' action, past <+: past' → ok action → may past' action)
    (hEnds : ∀ past' a, past <+: past' → last a → ends past' a) : t.Heeds may ends past := by
  induction t generalizing past with
  | done a => exact hEnds past a (List.prefix_refl past) h
  | act action next ih =>
    refine ⟨hMay past action (List.prefix_refl past) h.1, fun answer => ih answer (h.2 answer) ?_ ?_⟩
    · exact fun past' action' hPast => hMay past' action' ((List.prefix_append ..).trans hPast)
    · exact fun past' a hPast => hEnds past' a ((List.prefix_append ..).trans hPast)

theorem Heeds.run {t : Activity α} (h : t.Heeds may ends past) (r : Relay) :
    ends (past ++ t.trail r) (t.run r).1 := by
  induction t generalizing past r with
  | done a => rwa [trail, List.append_nil]
  | act action next ih =>
    have hRest := ih _ (h.2 (action.perform r).1) (action.perform r).2
    rwa [List.append_assoc] at hRest

end Activity

namespace Operation

variable {α β : Type} {may : List Performed → Action → Prop} {ends : List Performed → α → Prop}
  {past : List Performed}

/-- The operation heeds what may be done, and succeeds, if it does, as `ends` says. -/
def Heeds (may : List Performed → Action → Prop) (ends : List Performed → α → Prop) (op : Operation α)
    (past : List Performed) : Prop :=
  Activity.Heeds may (fun past => OnSuccess (ends past)) op.run past

theorem Heeds.pure {a : α} (h : ends past a) : Heeds may ends (pure a) past :=
  h

theorem Heeds.throw (e : RelayError) : Heeds may ends (throw e) past :=
  trivial

theorem Heeds.bind {op : Operation α} {f : α → Operation β} {ends' : List Performed → β → Prop}
    (h : Heeds may ends op past) (hNext : ∀ past a, ends past a → Heeds may ends' (f a) past) :
    Heeds may ends' (op >>= f) past := by
  refine (Activity.heeds_bind _ _).2 (Activity.Heeds.mono h (fun _ _ => id) fun past' result hResult => ?_)
  cases result with
  | ok a => exact hNext past' a hResult
  | error e => trivial

theorem Heeds.call {c : Store.Call} {ends : List Performed → c.Answer → Prop} (hMay : may past (.call c))
    (hEnds : ∀ answer, ends (past ++ [⟨.call c, .ok answer⟩]) answer) : Heeds may ends (call c) past := by
  refine (Activity.heeds_bind _ _).2 ⟨hMay, fun answer => ?_⟩
  cases answer with
  | ok answer => exact hEnds answer
  | error e => trivial

theorem Heeds.of_always {ok : Action → Prop} {last : α → Prop} {op : Operation α} (h : Always ok last op)
    (hMay : ∀ past' action, past <+: past' → ok action → may past' action)
    (hEnds : ∀ past' a, past <+: past' → last a → ends past' a) : Heeds may ends op past := by
  refine Activity.Heeds.of_always h hMay fun past' result hPast hResult => ?_
  cases result with
  | ok a => exact hEnds past' a hPast hResult
  | error e => trivial

theorem Heeds.of_uses {ok : Action → Prop} {op : Operation α} (h : Uses ok op)
    (hMay : ∀ past' action, past <+: past' → ok action → may past' action) :
    Heeds may (fun _ _ => True) op past :=
  .of_always h hMay fun _ _ _ => id

theorem Heeds.perform {action : Action} {ends : List Performed → action.Answer → Prop}
    (hMay : may past action) (hEnds : ∀ answer, ends (past ++ [⟨action, answer⟩]) answer) :
    Heeds may ends (perform action) past :=
  (Activity.heeds_bind _ _).2 ⟨hMay, hEnds⟩

end Operation

end ChatRelay
