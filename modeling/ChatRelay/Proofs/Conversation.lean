import ChatRelay.Proofs.Run
import ChatRelay.Proofs.Store.Pairs
import Mathlib.Data.Sym.Sym2

/-! Who is in a direct conversation.  Where nobody writes to the store under the names of direct
conversations, the relay opens each of them for two users and with just these as members.  So two users
have a conversation to themselves exactly if no other two have one of the same name; a name says where
it starts and where it ends, but not which of its colons is the one between the users. -/

namespace ChatRelay

open Store (Call Database)
open Operation (runOn runOn_bind_of_ok runOn_bind_eq_ok runOn_call_eq_ok runOn_call_of_apply)

/-! ### Reached relays -/

/-- The call leaves alone what is named like a direct conversation. -/
def Store.Call.IsTame : Call → Prop
  | createChannel id .. | addMember id _ | removeMember id _ => ¬ NamesDirect id
  | findOrCreateDirect .. => False
  | _ => True

/-- The store is not called directly for what is named like a direct conversation. -/
def Event.IsTame : Event → Prop
  | edit c => c.IsTame
  | _ => True

namespace Relay

/-- One thing happens to a relay: an event, or a message is sent on that was not stored. -/
inductive Evolves : Relay → Relay → Prop
  | event (r : Relay) {e : Event} (h : e.IsTame) : Evolves r (e.apply r)
  | broadcast (r : Relay) (m : Message) : Evolves r ((ChatRelay.broadcast m).runOn r).2

/-- The relay started over a fresh store, and nobody called the store directly for what is named like a
direct conversation. -/
def Reached (r : Relay) : Prop :=
  ∃ capacity, Relation.ReflTransGen Evolves (.ofDatabase .fresh capacity) r

theorem Reached.event {r : Relay} (h : r.Reached) {e : Event} (hTame : e.IsTame) :
    (e.apply r).Reached :=
  h.imp fun _ hRun => hRun.tail (.event r hTame)

end Relay

/-! ### Reached relays are paired -/

namespace Action

/-- The action leaves alone what is named like a direct conversation, or opens one for two users. -/
def IsTame (action : Action) : Prop :=
  ∀ c, action = .call c → c.IsTame ∨ action.Opens

theorem IsRead.isTame {action : Action} (h : action.IsRead) : action.IsTame := by
  obtain ⟨c, hRead, rfl⟩ := h
  rintro _ ⟨⟩
  cases c <;> first | exact .inl trivial | exact absurd hRead id

theorem Browses.isTame {action : Action} (h : action.Browses) : action.IsTame :=
  h.elim IsRead.isTame fun hOpens _ _ => .inr hOpens

theorem OnRegistry.isTame {action : Action} (h : action.OnRegistry) : action.IsTame := by
  rintro c rfl
  exact absurd h id

theorem Appends.isTame {action : Action} (h : action.Appends) : action.IsTame := by
  rintro c rfl
  cases c <;> first | exact .inl trivial | exact absurd h id

theorem Posts.isTame {action : Action} (h : action.Posts) : action.IsTame := by
  obtain h | h | ⟨text, h⟩ := h
  · exact h.isTame
  · exact h.isTame
  · exact h.onRegistry.isTame

end Action

namespace Store.Database

variable {db db' : Database}

theorem Paired.apply (h : db.Paired) {c : Call} {answer : c.Answer} (hTame : c.IsTame)
    (hOk : c.apply db = .ok (answer, db')) : db'.Paired := by
  cases c with
  | createUser id username fullName => exact h.insertUser (Call.change_ok hOk)
  | createChannel id name kind => exact h.createChannel hTame (Call.change_ok hOk)
  | addMember channel user => exact h.insertMember hTame (Call.change_ok hOk)
  | removeMember channel user =>
    obtain rfl : db.removeMember channel user = db' := by
      injection hOk with hOk
      injection hOk
    exact h.removeMember hTame user
  | findOrCreateDirect => exact hTame.elim
  | insertMessage row => exact h.insertMessage (Call.change_ok hOk)
  | _ =>
    obtain rfl : db = db' := by
      injection hOk with hOk
      injection hOk
    exact h

theorem channel?_fresh_of_namesDirect {id : String} (h : NamesDirect id) :
    Database.fresh.channel? id = none := by
  obtain ⟨rest, rfl⟩ := h
  have hNe : generalChannel ≠ "dm:" ++ rest := by
    intro hSame
    have hHead := congrArg (fun s : String => s.toList.head?) hSame
    rw [String.toList_append, List.head?_append_of_ne_nil _ (by decide)] at hHead
    exact absurd hHead (by decide)
  exact List.find?_cons_of_neg (by simpa using hNe)

theorem paired_fresh : Database.fresh.Paired :=
  ⟨rfl, fun _ hName => .absent (channel?_fresh_of_namesDirect hName) fun _ => rfl⟩

end Store.Database

namespace Relay

variable {r : Relay}

theorem paired_perform (h : r.store.database.Paired) {action : Action} (hTame : action.IsTame) :
    (action.perform r).2.store.database.Paired := by
  cases action with
  | call c =>
    show (r.store.call c).2.database.Paired
    unfold Store.call
    split
    · exact h
    split
    · rename_i hOk
      obtain hTame | ⟨a, b, hNe, hCall⟩ := hTame c rfl
      · exact h.apply hTame hOk
      · obtain rfl : c = .findOrCreateDirect (directChannel a b) a b := by injection hCall
        exact h.findOrCreateDirect hNe hOk
    · exact h
  | _ => exact h

theorem paired_runOn {α : Type} {ok : Action → Prop} {op : Operation α} (hUses : op.Uses ok)
    (hOk : ∀ action, ok action → action.IsTame) (h : r.store.database.Paired) :
    (op.runOn r).2.store.database.Paired :=
  hUses.runOn (P := fun r => r.store.database.Paired) (fun action _ hAction h =>
    paired_perform h (hOk action hAction)) h

theorem paired_apply (h : r.store.database.Paired) {e : Event} (hTame : e.IsTame) :
    (e.apply r).store.database.Paired := by
  cases e with
  | register id => exact h
  | unregister id => exact h
  | take id => exact h
  | dropReader id => exact h
  | sendError id code channel => exact h
  | post sender req fresh =>
    exact paired_runOn (post_uses sender req fresh) (fun _ => Action.Posts.isTame) h
  | ask s => exact paired_runOn s.uses (fun _ => Action.Browses.isTame) h
  | edit c =>
    refine paired_perform h ?_
    rintro _ ⟨⟩
    exact .inl hTame

theorem Reached.paired (h : r.Reached) : r.store.database.Paired := by
  obtain ⟨capacity, hRun⟩ := h
  induction hRun with
  | refl => exact Store.Database.paired_fresh
  | tail _ hStep ih =>
    cases hStep with
    | event hTame => exact paired_apply ih hTame
    | broadcast m =>
      refine paired_runOn (broadcast_uses m) (fun action hAction => ?_) ih
      exact hAction.elim Action.IsRead.isTame fun hSpreads => hSpreads.onRegistry.isTame

end Relay

/-! ### Opening a conversation -/

variable {r r' : Relay} {a b c : String}

/-- The relay opens the direct conversation of `a` and `b`, because it is asked to or because `b` is a
destination of `a`. -/
def OpensAs (a b c : String) (r r' : Relay) : Prop :=
  (createDirect a b).runOn r = (.ok c, r') ∨
    ((classify a b).runOn r).1 = .ok (.direct b) ∧ (resolve a b).runOn r = (.ok c, r')

theorem openDirect_runOn_ok (h : runOn (openDirect a b) r = (.ok c, r')) :
    c = directChannel a b ∧ (r'.store.database.channel? c).isSome := by
  unfold openDirect at h
  obtain ⟨created, r₁, hCall, hEnd⟩ := runOn_bind_eq_ok h
  obtain ⟨rfl, rfl⟩ : directChannel a b = c ∧ r₁ = r' := by simpa using hEnd
  obtain ⟨-, database, hOpened, rfl⟩ := runOn_call_eq_ok.1 hCall
  exact ⟨rfl, Store.Database.isSome_channel?_of_opened hOpened⟩

theorem OpensAs.opened (h : OpensAs a b c r r') :
    c = directChannel a b ∧ (r'.store.database.channel? c).isSome := by
  obtain h | ⟨hDirect, h⟩ := h
  · unfold createDirect at h
    split at h
    · simp at h
    obtain ⟨known, r₁, -, h⟩ := runOn_bind_eq_ok h
    split at h
    · exact openDirect_runOn_ok h
    · simp at h
  · unfold resolve at h
    obtain ⟨d, r₁, hClassify, h⟩ := runOn_bind_eq_ok h
    rw [hClassify] at hDirect
    obtain rfl : d = .direct b := by simpa using hDirect
    exact openDirect_runOn_ok h

theorem OpensAs.paired (h : OpensAs a b c r r') (hPaired : r.store.database.Paired) :
    r'.store.database.Paired := by
  obtain h | ⟨-, h⟩ := h
  · have hAfter := Relay.paired_runOn (createDirect_uses a b) (fun _ => Action.Browses.isTame) hPaired
    rwa [h] at hAfter
  · have hAfter := Relay.paired_runOn (resolve_uses a b) (fun _ => Action.Browses.isTame) hPaired
    rwa [h] at hAfter

theorem OpensAs.isBetween (h : OpensAs a b c r r') (hReached : r.Reached) :
    ∃ p q, p ≠ q ∧ directChannel p q = directChannel a b ∧ r'.store.database.IsBetween c p q := by
  obtain ⟨rfl, hChannel⟩ := h.opened
  cases (h.paired hReached.paired).conversations _ (namesDirect_directChannel a b) with
  | absent hNone _ =>
    rw [hNone] at hChannel
    contradiction
  | opened p q hNe hName hBetween => exact ⟨p, q, hNe, hName.symm, hBetween⟩

theorem createDirect_runOn_of_opened (hUsable : r.store.poisoned = false) (hNe : a ≠ b)
    (hKnown : (r.store.database.user? b).isSome) {created : Bool} {database : Database}
    (hOpened : r.store.database.findOrCreateDirect (directChannel a b) a b = .ok (created, database)) :
    runOn (createDirect a b) r = (.ok (directChannel a b), { r with store.database := database }) := by
  have hExists : @runOn Bool (Operation.call (.userExists b)) r = (.ok true, r) :=
    hKnown ▸ runOn_call_of_apply hUsable rfl
  unfold createDirect
  rw [if_neg hNe, runOn_bind_of_ok hExists]
  have hCall : runOn (Operation.call (.findOrCreateDirect (directChannel a b) a b)) r =
      (.ok created, { r with store.database := database }) :=
    runOn_call_eq_ok.2 ⟨hUsable, database, hOpened, rfl⟩
  show runOn (Operation.call (.findOrCreateDirect (directChannel a b) a b) >>= fun _ => _) r = _
  rw [runOn_bind_of_ok hCall]
  rfl

/-! ### Who has a conversation to themselves -/

/-- Whenever a direct conversation is opened for `a` and `b`, it is one of just these two. -/
def Isolates (a b : String) : Prop :=
  ∀ r : Relay, r.Reached → (r.store.database.user? a).isSome → (r.store.database.user? b).isSome →
    ∀ c r', OpensAs a b c r r' → r'.store.database.IsBetween c a b

/-- No other two users have a conversation of the same name. -/
def NamedAlone (a b : String) : Prop :=
  ∀ p q, p ≠ q → directChannel p q = directChannel a b → s(p, q) = s(a, b)

theorem isBetween_comm {db : Database} {channel p q : String} :
    db.IsBetween channel p q ↔ db.IsBetween channel q p :=
  and_congr .rfl (forall_congr' fun _ => by rw [or_comm])

theorem NamedAlone.isolates (h : NamedAlone a b) : Isolates a b := by
  intro r hReached _ _ c r' hOpens
  obtain ⟨p, q, hNe, hName, hBetween⟩ := hOpens.isBetween hReached
  obtain ⟨rfl, rfl⟩ | ⟨rfl, rfl⟩ := Sym2.eq_iff.1 (h p q hNe hName)
  · exact hBetween
  · exact isBetween_comm.1 hBetween

/-! ### Users without conversations -/

namespace Store.Database

/-- A fresh store with users of these ids, who are also named so. -/
def ofUsers (ids : List String) : Database :=
  { Database.fresh with users.rows := ids.map fun id => { id, username := id } }

theorem isSome_user?_ofUsers {ids : List String} {id : String} :
    ((ofUsers ids).user? id).isSome ↔ id ∈ ids := by
  rw [user?, List.find?_isSome]
  simp [ofUsers]

theorem isPlain_ofUsers (ids : List String) : (ofUsers ids).IsPlain :=
  ⟨rfl, rfl, rfl, rfl⟩

theorem insertUser_ofUsers {ids : List String} {id : String} (hNew : id ∉ ids) :
    (ofUsers ids).insertUser { id, username := id } = .ok (ofUsers (ids ++ [id])) := by
  have hTaken : ¬ ∃ other ∈ ids, other = id := by simpa using hNew
  unfold insertUser
  rw [if_neg (by exact Bool.false_ne_true), if_neg (by simpa [ofUsers] using hTaken),
    if_neg (by simpa [ofUsers] using hTaken)]
  simp [ofUsers]

end Store.Database

namespace Relay

theorem exists_reached_ofUsers (users : List String) :
    ∃ r : Relay, r.Reached ∧ r.store.poisoned = false ∧
      ∃ ids, r.store.database = .ofUsers ids ∧ ∀ id ∈ users, id ∈ ids := by
  induction users with
  | nil => exact ⟨.ofDatabase .fresh 1, ⟨1, .refl⟩, rfl, [], rfl, by simp⟩
  | cons id rest ih =>
    obtain ⟨r, hReached, hUsable, ids, hIds, hRest⟩ := ih
    by_cases hKnown : id ∈ ids
    · exact ⟨r, hReached, hUsable, ids, hIds, List.forall_mem_cons.2 ⟨hKnown, hRest⟩⟩
    have hApply : (Call.createUser id id none).apply r.store.database =
        .ok ((), .ofUsers (ids ++ [id])) := by
      rw [hIds]
      exact congrArg Call.change (Store.Database.insertUser_ofUsers hKnown)
    have hCall : (r.store.call (.createUser id id none)).2.database = .ofUsers (ids ++ [id]) := by
      rw [Store.call, if_neg (by simp [hUsable]), hApply]
    refine ⟨(Event.edit (.createUser id id none)).apply r, hReached.event trivial, ?_, _, hCall, ?_⟩
    · exact (Store.poisoned_call r.store _).trans hUsable
    · refine List.forall_mem_cons.2 ⟨by simp, fun other hOther => ?_⟩
      exact List.mem_append_left _ (hRest other hOther)

/-- Any two users may be the first to have a conversation. -/
theorem exists_reached_isBetween {p q : String} (hNe : p ≠ q) (users : List String) :
    ∃ r : Relay, r.Reached ∧ r.store.poisoned = false ∧
      (∀ id ∈ users, (r.store.database.user? id).isSome) ∧
      r.store.database.IsBetween (directChannel p q) p q := by
  obtain ⟨r, hReached, hUsable, ids, hIds, hIn⟩ := exists_reached_ofUsers (q :: users)
  have hUsers : ∀ id ∈ q :: users, (r.store.database.user? id).isSome := fun id hId => by
    rw [hIds, Store.Database.isSome_user?_ofUsers]
    exact hIn id hId
  have hNone : r.store.database.channel? (directChannel p q) = none := by
    rw [hIds]
    exact Store.Database.channel?_fresh_of_namesDirect (namesDirect_directChannel p q)
  have hNobody : ∀ user, r.store.database.isMember (directChannel p q) user = false := by
    rw [hIds]
    exact fun _ => rfl
  have hPlain : r.store.database.IsPlain := hIds ▸ Store.Database.isPlain_ofUsers ids
  obtain ⟨database, hOpened⟩ := hPlain.findOrCreateDirect hNe hNone hNobody
  have hCreate := createDirect_runOn_of_opened hUsable hNe (hUsers q List.mem_cons_self) hOpened
  have hApply : (Event.ask (.createDirect p q)).apply r = { r with store.database := database } := by
    show (runOn (createDirect p q >>= fun _ => pure ()) r).2 = _
    rw [runOn_bind_of_ok hCreate]
    rfl
  have hAfter : ((Event.ask (.createDirect p q)).apply r).Reached := hReached.event trivial
  rw [hApply] at hAfter
  refine ⟨_, hAfter, hUsable, fun id hId => ?_,
    (Store.Database.isBetween_of_opened hPlain.faults hNone hNobody hOpened).1⟩
  exact (Store.Database.findOrCreateDirect_edits hOpened).changes.isSome_user?
    (hUsers id (List.mem_cons_of_mem q hId))

end Relay

theorem Isolates.namedAlone (hNe : a ≠ b) (h : Isolates a b) : NamedAlone a b := by
  intro p q hPair hName
  obtain ⟨r, hReached, hUsable, hUsers, hBetween⟩ := Relay.exists_reached_isBetween hPair [a, b]
  obtain ⟨hA, hB⟩ : (r.store.database.user? a).isSome ∧ (r.store.database.user? b).isSome := by
    simpa using hUsers
  rw [hName] at hBetween
  have hFound := Store.Database.findOrCreateDirect_of_present hBetween.isSome_channel? a b
  have hOpens : OpensAs a b (directChannel a b) r r :=
    .inl (createDirect_runOn_of_opened hUsable hNe hB hFound)
  have hOwn := h r hReached hA hB _ r hOpens
  have hSame : ∀ user, user = p ∨ user = q ↔ user = a ∨ user = b := fun user =>
    (hBetween.2 user).symm.trans (hOwn.2 user)
  exact Sym2.ext fun user => by simpa using hSame user

theorem exists_directChannel_eq (a b : String) :
    ∃ low high, s(low, high) = s(a, b) ∧
      (directChannel a b).toList = "dm:".toList ++ (low.toList ++ ':' :: high.toList) := by
  obtain h | h := String.le_total a b
  · refine ⟨a, b, rfl, ?_⟩
    rw [directChannel_of_le h]
    simp [String.toList_append]
  · refine ⟨b, a, Sym2.eq_swap, ?_⟩
    rw [directChannel_comm, directChannel_of_le h]
    simp [String.toList_append]

/-- Users whose ids have no colon have their conversation to themselves. -/
theorem namedAlone_of_no_colon (hA : ':' ∉ a.toList) (hB : ':' ∉ b.toList) : NamedAlone a b := by
  intro p q _ hName
  obtain ⟨low, high, hPair, hText⟩ := exists_directChannel_eq a b
  obtain ⟨low', high', hPair', hText'⟩ := exists_directChannel_eq p q
  have hEnds : ':' ∉ low.toList ∧ ':' ∉ high.toList := by
    obtain ⟨rfl, rfl⟩ | ⟨rfl, rfl⟩ := Sym2.eq_iff.1 hPair
    · exact ⟨hA, hB⟩
    · exact ⟨hB, hA⟩
  rw [← hName, hText', List.append_cancel_left_eq] at hText
  obtain ⟨hLow, -, hHigh⟩ := (List.append_cons_inj_of_notMem hEnds.1 hEnds.2).1 hText.symm
  rw [← hPair, ← hPair', String.toList_injective hLow, String.toList_injective hHigh]

/-- Two users have their direct conversation to themselves, in every store that is reached from a fresh
one, exactly if no other two have one of the same name. -/
theorem isolates_iff (hNe : a ≠ b) : Isolates a b ↔ NamedAlone a b :=
  ⟨Isolates.namedAlone hNe, NamedAlone.isolates⟩

theorem isolates_ann_bob : Isolates "ann" "bob" :=
  (isolates_iff (by decide)).2 (namedAlone_of_no_colon (by decide) (by decide))

/-- Users whose ids have a colon may find that others have their conversation. -/
theorem not_forall_isolates : ¬ ∀ a b, a ≠ b → Isolates a b := by
  intro h
  have hAlone : NamedAlone "x:y" "z" := (h "x:y" "z" (by decide)).namedAlone (by decide)
  have hSame : s("x", "y:z") = s("x:y", "z") := hAlone "x" "y:z" (by decide) (by decide)
  exact absurd hSame (by decide)

end ChatRelay
