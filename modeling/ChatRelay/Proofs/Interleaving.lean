import ChatRelay.Proofs.Activity
import Mathlib.Logic.Hydra
import Mathlib.Logic.Relation

/-! Activities side by side.  `Crowd` is a relay with any number of activities under way, one of which
performs its next action at each step.  `Activity.Keeps` says of one activity what it guarantees of each of
its actions, and what it ends with, as long as the others keep the guarantee too; `Crowd.Keeps.run` takes
this to every run of a crowd whose activities all keep it, and `Crowd.wellFounded_step` says that every run
ends. -/

namespace ChatRelay

/-- An action that was performed, with its answer. -/
structure Performed where
  action : Action
  answer : action.Answer

/-- The action was not a call on the store that failed. -/
def Performed.Succeeded : Performed → Prop
  | ⟨.call _, .error _⟩ => False
  | _ => True

/-- The action with what it answers on a relay. -/
def Action.performed (action : Action) (r : Relay) : Performed :=
  ⟨action, (action.perform r).1⟩

/-! ### What an activity guarantees -/

/-- A relay that came of another by actions that the guarantee allows. -/
def Later (G : Relay → Performed → Relay → Prop) : Relay → Relay → Prop :=
  Relation.ReflTransGen fun r r' => ∃ e, G r e r'

namespace Activity

variable {α β : Type} {ok : Performed → Prop} {G : Relay → Performed → Relay → Prop}
  {ends ends' : List Performed → Relay → α → Prop} {past : List Performed} {r r' : Relay}

/-- Whatever others do to the relay before each action of the activity, as long as they keep the guarantee
`G`, the activity keeps it too, if its actions go as `ok` says; and it ends as `ends` says, which may depend
on what it has performed by then. -/
def Keeps (ok : Performed → Prop) (G : Relay → Performed → Relay → Prop)
    (ends : List Performed → Relay → α → Prop) : Activity α → List Performed → Relay → Prop
  | done a, past, r => ends past r a
  | act action next, past, r => ∀ r', Later G r r' → ok (action.performed r') →
      G r' (action.performed r') (action.perform r').2 ∧
        (next (action.perform r').1).Keeps ok G ends (past ++ [action.performed r']) (action.perform r').2

theorem Keeps.mono {t : Activity α} (h : t.Keeps ok G ends past r)
    (hEnds : ∀ past r' a, Later G r r' → ends past r' a → ends' past r' a) :
    t.Keeps ok G ends' past r := by
  induction t generalizing past r with
  | done a => exact hEnds past r a .refl h
  | act action next ih =>
    intro r' hLater hOk
    obtain ⟨hStep, hNext⟩ := h r' hLater hOk
    have hAfter : Later G r (action.perform r').2 := hLater.tail ⟨_, hStep⟩
    exact ⟨hStep, ih _ hNext fun past r'' a hLater' => hEnds past r'' a (hAfter.trans hLater')⟩

theorem keeps_bind (t : Activity α) (f : α → Activity β) {ends : List Performed → Relay → β → Prop} :
    (t >>= f).Keeps ok G ends past r ↔
      t.Keeps ok G (fun past r a => (f a).Keeps ok G ends past r) past r := by
  induction t generalizing past r with
  | done a => exact .rfl
  | act action next ih =>
    refine forall_congr' fun r' => forall_congr' fun _ => forall_congr' fun _ => ?_
    exact and_congr .rfl (ih _)

theorem Keeps.later {t : Activity α} (h : t.Keeps ok G ends past r) (hLater : Later G r r')
    (hStable : ∀ past r r' a, Later G r r' → ends past r a → ends past r' a) :
    t.Keeps ok G ends past r' := by
  cases t with
  | done a => exact hStable past r r' a hLater h
  | act action next => exact fun r'' hLater' => h r'' (hLater.trans hLater')

/-- Where each action of an activity keeps the guarantee, whatever is answered, the activity does. -/
theorem Keeps.of_always {ok' : Action → Prop} {last : α → Prop} {t : Activity α} (h : t.Always ok' last)
    (hStep : ∀ action r', ok' action → Later G r r' → ok (action.performed r') →
      G r' (action.performed r') (action.perform r').2)
    (hEnds : ∀ past' r' a, past <+: past' → Later G r r' → last a → ends past' r' a) :
    t.Keeps ok G ends past r := by
  induction t generalizing past r with
  | done a => exact hEnds past r a (List.prefix_refl past) .refl h
  | act action next ih =>
    intro r' hLater hOk
    have hKept := hStep action r' h.1 hLater hOk
    have hAfter : Later G r (action.perform r').2 := hLater.tail ⟨_, hKept⟩
    refine ⟨hKept, ih _ (h.2 _) (fun action r'' hAction hLater' => ?_) fun past' r'' a hPast hLater' => ?_⟩
    · exact hStep action r'' hAction (hAfter.trans hLater')
    · exact hEnds past' r'' a ((List.prefix_append _ _).trans hPast) (hAfter.trans hLater')

end Activity

namespace Operation

variable {α β : Type} {ok : Performed → Prop} {G : Relay → Performed → Relay → Prop}
  {ends : List Performed → Relay → α → Prop} {past : List Performed} {r : Relay}

/-- The operation keeps the guarantee, and succeeds as `ends` says. -/
def Keeps (ok : Performed → Prop) (G : Relay → Performed → Relay → Prop)
    (ends : List Performed → Relay → α → Prop) (op : Operation α) (past : List Performed) (r : Relay) :
    Prop :=
  Activity.Keeps ok G (fun past r result => ∃ a, result = .ok a ∧ ends past r a) op.run past r

theorem Keeps.pure {a : α} (h : ends past r a) : Keeps ok G ends (pure a) past r :=
  ⟨a, rfl, h⟩

theorem Keeps.bind {op : Operation α} {f : α → Operation β} {ends' : List Performed → Relay → β → Prop}
    (h : Keeps ok G ends op past r)
    (hNext : ∀ past r' a, Later G r r' → ends past r' a → Keeps ok G ends' (f a) past r') :
    Keeps ok G ends' (op >>= f) past r := by
  refine (Activity.keeps_bind _ _).2 (Activity.Keeps.mono h fun past r' result hLater hResult => ?_)
  obtain ⟨a, rfl, hEnds⟩ := hResult
  exact hNext past r' a hLater hEnds

theorem Keeps.lift {t : Activity α} (h : t.Keeps ok G ends past r) :
    Keeps ok G ends (ExceptT.lift t) past r :=
  (Activity.keeps_bind _ _).2 (Activity.Keeps.mono h fun _ _ a _ hEnds => ⟨a, rfl, hEnds⟩)

/-- A call that may not fail does to the content what it does to it, and others may have acted before. -/
theorem Keeps.call {c : Store.Call} {ends : List Performed → Relay → c.Answer → Prop}
    (hOk : ∀ cause, ¬ ok ⟨.call c, .error cause⟩)
    (h : ∀ r' answer database, Later G r r' → c.apply r'.store.database = .ok (answer, database) →
      G r' ⟨.call c, .ok answer⟩ { r' with store.database := database } ∧
        ends (past ++ [⟨.call c, .ok answer⟩]) { r' with store.database := database } answer) :
    Keeps ok G ends (call c) past r := by
  refine (Activity.keeps_bind _ _).2 fun r' hLater hSucceeded => ?_
  have hPerform : (Action.call c).perform r' =
      ((r'.store.call c).1, { r' with store := (r'.store.call c).2 }) := rfl
  unfold Action.performed at hSucceeded ⊢
  rw [hPerform] at hSucceeded ⊢
  unfold Store.call at hSucceeded ⊢
  split at hSucceeded
  · exact absurd hSucceeded (hOk _)
  rename_i hUsable
  rw [if_neg hUsable]
  split at hSucceeded
  · rename_i answer database hApply
    obtain ⟨hStep, hEnds⟩ := h r' answer database hLater hApply
    exact ⟨hStep, answer, rfl, hEnds⟩
  · exact absurd hSucceeded (hOk _)

end Operation

/-! ### Crowds -/

namespace Activity

variable {α : Type}

/-- What is left of an activity when its first action was answered. -/
inductive IsNext : Activity α → Activity α → Prop
  | answered (action : Action) (next : action.Answer → Activity α) (answer : action.Answer) :
      IsNext (next answer) (act action next)

theorem wellFounded_isNext : WellFounded (@IsNext α) := by
  refine ⟨fun t => ?_⟩
  induction t with
  | done a => exact ⟨_, fun rest hNext => nomatch hNext⟩
  | act action next ih =>
    refine ⟨_, fun rest hNext => ?_⟩
    cases hNext with
    | answered => exact ih _

end Activity

/-- An activity under way: what it is for, what is left of it, and what it has performed. -/
structure Strand (κ α : Type) where
  label : κ
  rest : Activity α
  past : List Performed := []

/-- A relay with activities under way. -/
structure Crowd (κ α : Type) where
  relay : Relay
  strands : List (Strand κ α)

namespace Crowd

variable {κ α : Type} {ok : Performed → Prop} {G : Relay → Performed → Relay → Prop}
  {ends : κ → List Performed → Relay → α → Prop} {p p' : Crowd κ α}

/-- How many of the performed actions are such as `f` says. -/
def count (f : Performed → Bool) (p : Crowd κ α) : Nat :=
  (p.strands.flatMap (·.past)).countP f

/-- One of the activities performs its next action, which goes as `ok` says. -/
inductive Step (ok : Performed → Prop) : Crowd κ α → Crowd κ α → Prop
  | perform (p : Crowd κ α) {before after : List (Strand κ α)} {t : Strand κ α} {action : Action}
      {next : action.Answer → Activity α} (hStrands : p.strands = before ++ t :: after)
      (hRest : t.rest = .act action next) (hOk : ok (action.performed p.relay)) :
      Step ok p
        { relay := (action.perform p.relay).2
          strands := before ++
            { t with
              rest := next (action.perform p.relay).1
              past := t.past ++ [action.performed p.relay] } :: after }

/-- Nothing can be performed any more. -/
def IsOver (p : Crowd κ α) : Prop :=
  ∀ p', ¬ Step (fun _ => True) p p'

theorem isOver_iff : p.IsOver ↔ ∀ t ∈ p.strands, ∃ a, t.rest = .done a := by
  constructor
  · intro hOver t ht
    obtain ⟨before, after, hStrands⟩ := List.append_of_mem ht
    cases hRest : t.rest with
    | done a => exact ⟨a, rfl⟩
    | act action next => exact absurd (.perform p hStrands hRest trivial) (hOver _)
  · intro hDone p' hStep
    cases hStep with
    | perform hStrands hRest hOk =>
      rename_i before after t action next
      obtain ⟨a, hEnd⟩ := hDone t (hStrands ▸ List.mem_append_right _ List.mem_cons_self)
      rw [hEnd] at hRest
      contradiction

theorem rests_eq (before after : List (Strand κ α)) (t : Strand κ α) :
    ((before ++ t :: after).map (·.rest) : Multiset (Activity α)) =
      ((before ++ after).map (·.rest) : Multiset (Activity α)) + {t.rest} := by
  rw [Multiset.add_comm, Multiset.singleton_add, Multiset.cons_coe, Multiset.coe_eq_coe]
  exact List.perm_middle.map _

/-- No crowd goes on forever: each step leaves less of one activity, and the others as they were. -/
theorem wellFounded_step (ok : Performed → Prop) : WellFounded fun p' p : Crowd κ α => Step ok p p' := by
  -- The activities as a multiset, of which a step replaces one by what is left of it.
  refine Subrelation.wf (fun {p' p} hStep => ?_) (InvImage.wf
    (fun p : Crowd κ α => (p.strands.map (·.rest) : Multiset (Activity α)))
    Activity.wellFounded_isNext.cutExpand)
  cases hStep with
  | perform hStrands hRest hOk =>
    rename_i before after t action next
    simp only [InvImage, hStrands, rests_eq, hRest]
    exact Relation.cutExpand_add_single _ (.answered action next _)

/-- Every activity keeps the guarantee from here on. -/
def Keeps (ok : Performed → Prop) (G : Relay → Performed → Relay → Prop)
    (ends : κ → List Performed → Relay → α → Prop) (p : Crowd κ α) : Prop :=
  ∀ t ∈ p.strands, t.rest.Keeps ok G (ends t.label) t.past p.relay

/-- A step is one that the guarantee allows, is counted once, and leaves everybody's guarantee standing. -/
theorem Keeps.step (h : p.Keeps ok G ends)
    (hStable : ∀ k past r r' a, Later G r r' → ends k past r a → ends k past r' a) (hStep : Step ok p p') :
    p'.Keeps ok G ends ∧ p'.strands.map (·.label) = p.strands.map (·.label) ∧
      ∃ e, G p.relay e p'.relay ∧ ∀ f, p'.count f = p.count f + if f e then 1 else 0 := by
  cases hStep with
  | perform hStrands hRest hOk =>
    rename_i before after t action next
    have hT := h t (hStrands ▸ List.mem_append_right _ List.mem_cons_self)
    rw [hRest] at hT
    obtain ⟨hGuarantee, hNext⟩ := hT p.relay .refl hOk
    have hLater : Later G p.relay (action.perform p.relay).2 := .single ⟨_, hGuarantee⟩
    have hOther : ∀ u ∈ before ++ after,
        u.rest.Keeps ok G (ends u.label) u.past (action.perform p.relay).2 := by
      intro u hu
      have hOld : u ∈ p.strands := by
        rw [hStrands, List.mem_append, List.mem_cons]
        exact (List.mem_append.1 hu).imp_right .inr
      exact (h u hOld).later hLater (hStable u.label)
    -- The activity that stepped keeps the guarantee because it did before; the others, because the step
    -- is one that they do not mind.
    refine ⟨fun u hu => ?_, ?_, action.performed p.relay, hGuarantee, fun f => ?_⟩
    · rcases List.mem_append.1 hu with hu | hu
      · exact hOther u (List.mem_append_left _ hu)
      rcases List.mem_cons.1 hu with rfl | hu
      · exact hNext
      · exact hOther u (List.mem_append_right _ hu)
    · rw [hStrands, List.map_append, List.map_append, List.map_cons, List.map_cons]
    · simp only [count, hStrands, List.flatMap_append, List.flatMap_cons, List.countP_append,
        List.countP_singleton]
      omega

/-- What holds of a crowd whose activities keep a guarantee holds after any run: they keep it from there,
and what the guarantee preserves with each action that counts is preserved with their number. -/
theorem Keeps.run (h : p.Keeps ok G ends)
    (hStable : ∀ k past r r' a, Later G r r' → ends k past r a → ends k past r' a)
    {f : Performed → Bool} {I : Nat → Relay → Prop}
    (hStep : ∀ n r e r', I n r → G r e r' → I (n + if f e then 1 else 0) r') (hStart : I (p.count f) p.relay)
    (hRun : Relation.ReflTransGen (Step ok) p p') :
    p'.Keeps ok G ends ∧ p'.strands.map (·.label) = p.strands.map (·.label) ∧ I (p'.count f) p'.relay := by
  induction hRun with
  | refl => exact ⟨h, rfl, hStart⟩
  | tail _ hLast ih =>
    obtain ⟨hKeeps, hLabels, hI⟩ := ih
    obtain ⟨hKeeps', hLabels', e, hG, hCount⟩ := hKeeps.step hStable hLast
    refine ⟨hKeeps', hLabels'.trans hLabels, ?_⟩
    rw [hCount]
    exact hStep _ _ _ _ hI hG

end Crowd

end ChatRelay
