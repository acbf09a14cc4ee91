import ChatRelay.Proofs.Access
import ChatRelay.Proofs.Queues
import ChatRelay.Proofs.RoundTrip.Wire

/-! A post as a whole.  A post that fails leaves the registry alone; one that succeeds stores its message
and then fans out its frame to the audience that the store gives for the channel at that moment, and does
nothing else to the registry.  So does every other operation that is not a fan-out. -/

namespace ChatRelay

open Operation (runOn runOn_bind_of_ok runOn_bind_of_error runOn_bind_eq_ok runOn_bind_eq_error
  runOn_call_eq_ok runOn_lift runOn_attempt)
open Registry (Audience)

variable {r r' : Relay}

theorem Message.message?_frame (m : Message) : m.frame.message? = some m :=
  Frame.message?_encode_message m

/-! ### Fan-out -/

theorem shedAll_run (slow : List ConnectionId) (r : Relay) :
    ((shedAll slow).run r).2 = { r with registry := r.registry.shed slow } := by
  induction slow generalizing r with
  | nil => rfl
  | cons id rest ih =>
    have hFirst : (shedAll (id :: rest)).run r =
        (shedAll rest >>= fun others =>
          pure ((if (r.registry.unregister id).1 then 1 else 0) + others)).run
          { r with registry := (r.registry.unregister id).2 } := rfl
    rw [hFirst, Activity.run_bind]
    exact ih _

theorem deliver_run (audience : Audience) (frame : Frame) (r : Relay) :
    ((deliver audience frame).run r).2 =
      { r with registry := r.registry.deliver audience frame } := by
  unfold deliver
  rw [Activity.run_bind, Activity.run_bind, Activity.run_ofAction]
  exact shedAll_run _ _

/-- The registry after a message is fanned out, whose audience is what the store says. -/
def Relay.spread (r : Relay) (m : Message) : Relay :=
  match r.store.database.audience? m.channel with
  | some audience => { r with registry := r.registry.deliver audience m.frame }
  | none => r

@[simp] theorem Relay.store_spread (r : Relay) (m : Message) : (r.spread m).store = r.store := by
  unfold Relay.spread
  split <;> rfl

theorem broadcast_runOn (hUsable : r.store.poisoned = false) (m : Message) :
    (runOn (broadcast m) r).2 = r.spread m := by
  unfold broadcast Relay.spread
  have hAudience := audienceOf_runOn hUsable m.channel
  rcases h : r.store.database.audience? m.channel with _ | audience
  · rw [h] at hAudience
    rw [runOn_bind_of_error hAudience]
  · rw [h] at hAudience
    rw [runOn_bind_of_ok hAudience, runOn_lift]
    exact deliver_run audience m.frame r

/-- The registered connections of an audience are those whose users may see the channel. -/
theorem mem_listed_iff_sees {channel : String} {audience : Audience} {id : ConnectionId}
    (h : r.store.database.audience? channel = some audience) (hRegistered : r.registry.isRegistered id) :
    id.user ∈ audience.listed r.registry ↔ r.store.database.sees id.user channel := by
  unfold Store.Database.audience? at h
  obtain ⟨kind, hKind, rfl⟩ := Option.map_eq_some_iff.1 h
  rw [Store.Database.sees_of_kind hKind]
  by_cases hShared : kind.isShared
  · rw [if_pos hShared, hShared, Bool.true_or]
    exact iff_of_true (Registry.mem_users_of_isRegistered hRegistered) rfl
  · rw [if_neg hShared, Bool.eq_false_iff.2 hShared, Bool.false_or]
    exact Store.Database.mem_memberIds

theorem Store.Database.Keyed.nodup_listed {db : Store.Database} (h : db.Keyed) {registry : Registry}
    (hDistinct : registry.Distinct) {channel : String} {audience : Audience}
    (hAudience : db.audience? channel = some audience) : (audience.listed registry).Nodup := by
  obtain ⟨kind, -, rfl⟩ := Option.map_eq_some_iff.1 hAudience
  split
  · exact hDistinct
  · exact h.nodup_memberIds channel

/-! ### Operations that are not a fan-out -/

theorem registry_runOn {α : Type} {ok : Action → Prop} {op : Operation α} (h : op.Uses ok)
    (hOk : ∀ action, ok action → ¬ action.OnRegistry) (r : Relay) :
    (runOn op r).2.registry = r.registry := by
  refine h.runOn (P := fun r₁ => r₁.registry = r.registry) ?_ rfl
  intro action r₁ hAction hSame
  rw [Action.registry_perform (hOk action hAction), hSame]

theorem Service.registry_runOn (s : Service) (r : Relay) :
    (runOn s.operation r).2.registry = r.registry :=
  ChatRelay.registry_runOn s.uses (fun _ h => h.not_onRegistry) r

/-! ### Posting -/

theorem poisoned_runOn {α : Type} (op : Operation α) (r : Relay) :
    (runOn op r).2.store.poisoned = r.store.poisoned :=
  Activity.run_preserves (P := fun r₁ => r₁.store.poisoned = r.store.poisoned)
    (fun action r₁ h => (Action.poisoned_perform action r₁).trans h) op.run rfl

theorem usable_of_append_ok {sender channel : String} {req : SendRequest} {fresh : Fresh} {m : Message}
    (h : runOn (append sender channel req fresh) r = (.ok m, r')) : r'.store.poisoned = false := by
  have hKept := poisoned_runOn (append sender channel req fresh) r
  rw [h] at hKept
  unfold append at h
  obtain ⟨time, r₁, hTime, h⟩ := runOn_bind_eq_ok h
  obtain ⟨_, r₂, hInsert, -⟩ := runOn_bind_eq_ok h
  have hTimeKept := poisoned_runOn (Operation.perform (.stamp fresh.wall)) r
  rw [hTime] at hTimeKept
  rw [hKept, ← hTimeKept]
  exact (runOn_call_eq_ok.1 hInsert).1

/-- A post that succeeds is its parts, up to the message that is stored, and then the fan-out. -/
theorem post_runOn_ok {sender : String} {req : SendRequest} {fresh : Fresh} {m : Message}
    (h : runOn (post sender req fresh) r = (.ok m, r')) :
    ∃ r₁ : Relay, r₁.registry = r.registry ∧ r' = r₁.spread m := by
  unfold post at h
  obtain ⟨channel, r₁, hResolve, h⟩ := runOn_bind_eq_ok h
  obtain ⟨kind, r₂, hAuthorize, h⟩ := runOn_bind_eq_ok h
  obtain ⟨m', r₃, hAppend, h⟩ := runOn_bind_eq_ok h
  obtain ⟨result, r₄, hBroadcast, h⟩ := runOn_bind_eq_ok h
  obtain ⟨rfl, rfl⟩ : m' = m ∧ r₄ = r' := by simpa using h
  have hResolved := registry_runOn (resolve_uses sender req.destination)
    (fun _ h => h.not_onRegistry) r
  have hAuthorized := registry_runOn (authorize_uses sender channel) (fun _ h => h.not_onRegistry) r₁
  have hAppended := registry_runOn (append_uses sender channel req fresh)
    (fun _ h => h.not_onRegistry) r₂
  rw [hResolve] at hResolved
  rw [hAuthorize] at hAuthorized
  rw [hAppend] at hAppended
  refine ⟨r₃, hAppended.trans (hAuthorized.trans hResolved), ?_⟩
  rw [runOn_attempt] at hBroadcast
  rw [← broadcast_runOn (usable_of_append_ok hAppend)]
  exact (congrArg Prod.snd hBroadcast).symm

theorem post_runOn_error {sender : String} {req : SendRequest} {fresh : Fresh} {e : RelayError}
    (h : runOn (post sender req fresh) r = (.error e, r')) : r'.registry = r.registry := by
  have hResolved := registry_runOn (resolve_uses sender req.destination)
    (fun _ h => h.not_onRegistry) r
  unfold post at h
  obtain hResolve | ⟨channel, r₁, hResolve, h⟩ := runOn_bind_eq_error h
  · rw [hResolve] at hResolved
    exact hResolved
  rw [hResolve] at hResolved
  have hAuthorized := registry_runOn (authorize_uses sender channel) (fun _ h => h.not_onRegistry) r₁
  obtain hAuthorize | ⟨kind, r₂, hAuthorize, h⟩ := runOn_bind_eq_error h
  · rw [hAuthorize] at hAuthorized
    exact hAuthorized.trans hResolved
  rw [hAuthorize] at hAuthorized
  have hAppended := registry_runOn (append_uses sender channel req fresh)
    (fun _ h => h.not_onRegistry) r₂
  obtain hAppend | ⟨m, r₃, -, h⟩ := runOn_bind_eq_error h
  · rw [hAppend] at hAppended
    exact hAppended.trans (hAuthorized.trans hResolved)
  obtain hBroadcast | ⟨result, r₄, -, h⟩ := runOn_bind_eq_error h
  · rw [runOn_attempt] at hBroadcast
    simp at hBroadcast
  · simp at h

end ChatRelay
