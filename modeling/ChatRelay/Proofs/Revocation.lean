import ChatRelay.Proofs.Access
import ChatRelay.Proofs.Chronicle
import ChatRelay.Proofs.Permanence

/-! Membership and posts that are under way.  A post asks whether its sender may see the channel, and stores
its message by a later call; a membership may end in between.  So a message may enter a channel of which its
sender is no member any more, but only by a post that has asked before the membership ended: a post that
asks later is refused.  `Posting.heeds` says that of one post, and `posts_were_members` of all of a run. -/

namespace ChatRelay

open Store (Call MessageRow)
open Store.Database (Grows)
open ChatRelay.Action (isRead_call)

variable {past : List Performed} {user channel : String}

/-! ### What a post has asked -/

/-- The user was found to be a member of the channel, or the channel to be a shared one. -/
inductive Admitted (user channel : String) (past : List Performed) : Prop
  | member (h : ⟨.call (.isMember channel user), .ok true⟩ ∈ past)
  | shared {text : String} (h : ⟨.call (.kindText channel), .ok (some text)⟩ ∈ past)
      (hShared : (ChannelKind.ofText text).isShared)

theorem Admitted.mono {past' : List Performed} (h : Admitted user channel past) (hPast : past ⊆ past') :
    Admitted user channel past' := by
  cases h with
  | member h => exact .member (hPast h)
  | shared h hShared => exact .shared (hPast h) hShared

/-- What a post of the user may do: if it stores a message, that is the user's, in a channel to which the
user was found to be admitted. -/
def MayPost (user : String) (past : List Performed) (action : Action) : Prop :=
  ∀ row, action = .call (.insertMessage row) → row.sender = user ∧ Admitted user row.channel past

theorem MayPost.of_isRead {action : Action} (h : action.IsRead) : MayPost user past action := by
  rintro row rfl
  obtain ⟨c, hRead, hCall⟩ := h
  injection hCall with hCall
  exact (hCall ▸ hRead : Call.IsRead (.insertMessage row)).elim

theorem MayPost.of_browses {action : Action} (h : action.Browses) : MayPost user past action := by
  obtain h | ⟨a, b, -, rfl⟩ := h
  · exact .of_isRead h
  · intro row hRow
    injection hRow with hRow
    contradiction

/-- What a post has asked is among what it has performed. -/
theorem heeds_read {c : Call} (h : c.IsRead) (past : List Performed) :
    Operation.Heeds (MayPost user) (fun past answer => ⟨.call c, .ok answer⟩ ∈ past)
      (Operation.call c) past :=
  .call (.of_isRead (isRead_call h)) fun _ => List.mem_append_right _ (List.mem_singleton_self _)

theorem channelKind_heeds (user channel : String) (past : List Performed) :
    Operation.Heeds (MayPost user) (fun past kind => kind.isShared → Admitted user channel past)
      (channelKind channel) past := by
  unfold channelKind
  refine .bind (heeds_read (c := .kindText channel) trivial past) fun past text? hText => ?_
  cases text? with
  | none => exact .throw _
  | some text => exact .pure fun hShared => .shared hText hShared

theorem authorize_heeds (user channel : String) (past : List Performed) :
    Operation.Heeds (MayPost user) (fun past _ => Admitted user channel past)
      (authorize user channel) past := by
  unfold authorize
  refine .bind (channelKind_heeds user channel past) fun past kind hKind => ?_
  by_cases hShared : kind.isShared
  · rw [if_pos hShared]
    exact .pure (hKind hShared)
  · rw [if_neg hShared]
    refine .bind (heeds_read (c := .isMember channel user) trivial past) fun past member hMember => ?_
    cases member with
    | true => exact .pure (.member hMember)
    | false => exact .throw _

/-- A post by a user. -/
structure Posting where
  sender : String
  req : SendRequest
  fresh : Fresh

namespace Posting

def activity (k : Posting) : Activity (Except RelayError Message) :=
  (post k.sender k.req k.fresh).run

theorem append_heeds (k : Posting) {channel : String} (h : Admitted k.sender channel past) :
    Operation.Heeds (MayPost k.sender) (fun _ _ => True)
      (append k.sender channel k.req k.fresh) past := by
  have hStamp : Operation.Heeds (MayPost k.sender) (fun past _ => Admitted k.sender channel past)
      (Operation.perform (.stamp k.fresh.wall)) past :=
    .perform (fun row hRow => nomatch hRow) fun time => h.mono (List.subset_append_left ..)
  unfold append
  refine .bind hStamp fun past time hAdmitted => ?_
  refine .bind (.call ?_ fun _ => trivial) fun _ _ (_ : True) => .pure trivial
  rintro row hRow
  injection hRow with hRow
  injection hRow with hRow
  subst hRow
  exact ⟨rfl, hAdmitted⟩

theorem heeds (k : Posting) : k.activity.Heeds (MayPost k.sender) (fun _ _ => True) [] := by
  have hPost : Operation.Heeds (MayPost k.sender) (fun _ _ => True)
      (post k.sender k.req k.fresh) [] := by
    unfold post
    refine .bind (.of_uses (resolve_uses k.sender k.req.destination) fun _ _ _ h => .of_browses h)
      fun past channel _ => ?_
    refine .bind (authorize_heeds k.sender channel past) fun past kind hAdmitted => ?_
    refine .bind (append_heeds k hAdmitted) fun past m _ => ?_
    refine .bind (.of_uses (.attempt (broadcast_uses m)) fun past action _ hAction => ?_)
      fun _ _ _ => .pure trivial
    obtain hRead | hSpread := hAction
    · exact .of_isRead hRead
    · rintro row rfl
      exact hSpread.elim
  exact Activity.Heeds.mono hPost (fun _ _ => id) fun _ _ _ => trivial

end Posting

/-! ### What an entry says of the store -/

namespace Entry

variable {e : Entry}

/-- An entry of a call that succeeded says what the call found and made of the store. -/
theorem Honest.call {c : Call} {answer : c.Answer} (h : e.Honest)
    (hDone : e.done = ⟨.call c, .ok answer⟩) :
    c.apply e.before.store.database = .ok (answer, e.after.store.database) := by
  obtain ⟨hAnswer, hAfter⟩ := h.perform (hDone ▸ trivial)
  rw [hDone] at hAnswer hAfter
  injection hAnswer with _ hAnswer
  exact Store.apply_of_call_ok (Prod.ext hAnswer.symm (congrArg Relay.store hAfter).symm)

/-- The user was no member of the channel before, and is one after. -/
def Joins (channel user : String) (e : Entry) : Prop :=
  e.before.store.database.isMember channel user = false ∧ e.after.store.database.isMember channel user

theorem Honest.statements (h : e.Honest) :
    e.before.store.database.Statements e.after.store.database := by
  cases h with
  | performed strand? r action => exact action.statements_perform r
  | failed strand? r c cause => exact .refl

end Entry

namespace Store

variable {db db' : Database}

theorem Database.isMember_removeMember (db : Database) (channel user : String) :
    (db.removeMember channel user).isMember channel user = false := by
  simp only [Database.isMember, Database.removeMember, List.any_filter, List.any_eq_false]
  grind

theorem Database.isMember_of_subset (hRows : db'.members.rows ⊆ db.members.rows)
    (h : db'.isMember channel user) : db.isMember channel user := by
  obtain ⟨row, hRow, hIs⟩ := List.any_eq_true.1 h
  exact List.any_eq_true.2 ⟨row, hRows hRow, hIs⟩

/-- An insert of a membership makes nobody else a member. -/
theorem Database.eq_of_joins_insertMember {id other : String} (h : db.insertMember id other = .ok db')
    (hBefore : db.isMember channel user = false) (hAfter : db'.isMember channel user) :
    id = channel ∧ other = user := by
  obtain ⟨rfl, -⟩ | ⟨-, -, -, rfl⟩ := Database.insertMember_ok h
  · simp [hBefore] at hAfter
  · unfold Database.isMember at hBefore hAfter
    rw [List.any_append, hBefore, Bool.false_or] at hAfter
    simpa using hAfter

/-- A user becomes a member of a channel by being added, or when a direct conversation is opened whose
channel was not there. -/
theorem Call.joins {c : Call} {answer : c.Answer} (h : c.apply db = .ok (answer, db'))
    (hBefore : db.isMember channel user = false) (hAfter : db'.isMember channel user) :
    c = .addMember channel user ∨
      (db.channel? channel).isNone ∧
        ∃ a b, c = .findOrCreateDirect channel a b ∧ (user = a ∨ user = b) := by
  -- Most calls leave no membership that was not there.
  have hNone : ¬ db'.members.rows ⊆ db.members.rows := fun hRows => by
    rw [Database.isMember_of_subset hRows hAfter] at hBefore
    contradiction
  cases c with
  | addMember id other =>
    obtain ⟨rfl, rfl⟩ := Database.eq_of_joins_insertMember (change_ok h) hBefore hAfter
    exact .inl rfl
  | findOrCreateDirect id a b =>
    obtain ⟨-, rfl⟩ | ⟨hNew, -, -, db₁, db₂, hChannel, hFirst, hSecond⟩ :=
      Database.findOrCreateDirect_ok h
    · exact absurd (List.Subset.refl _) hNone
    right
    have hStill : db₁.isMember channel user = false := by
      obtain ⟨-, rfl, -⟩ | ⟨-, -, rfl⟩ := Database.insertChannel_ok hChannel
      · exact hBefore
      · exact hBefore
    by_cases hThen : db₂.isMember channel user
    · obtain ⟨rfl, rfl⟩ := Database.eq_of_joins_insertMember hFirst hStill hThen
      exact ⟨hNew, _, b, rfl, .inl rfl⟩
    · obtain ⟨rfl, rfl⟩ := Database.eq_of_joins_insertMember hSecond (by simpa using hThen) hAfter
      exact ⟨hNew, a, _, rfl, .inr rfl⟩
  | createUser id username fullName =>
    obtain ⟨-, -, rfl⟩ := Database.insertUser_ok (change_ok h)
    exact absurd (List.Subset.refl _) hNone
  | createChannel id name kind =>
    obtain ⟨-, rfl, -⟩ | ⟨-, -, rfl⟩ :=
      Database.insertChannel_ok (Database.createChannel_ok (change_ok h))
    · exact absurd (List.Subset.refl _) hNone
    · exact absurd (List.Subset.refl _) hNone
  | removeMember id other =>
    obtain rfl : db.removeMember id other = db' := (Prod.mk.inj (Except.ok.inj h)).2
    exact absurd (fun _ hRow => List.mem_of_mem_filter hRow) hNone
  | insertMessage row =>
    obtain ⟨-, db₁, ⟨-, rfl⟩ | ⟨-, rfl⟩, rfl⟩ := Database.insertMessage_eq_ok (change_ok h)
    · exact absurd (List.Subset.refl _) hNone
    · exact absurd (fun _ hRow => List.mem_of_mem_filter hRow) hNone
  | _ =>
    obtain rfl : db = db' := (Prod.mk.inj (Except.ok.inj h)).2
    exact absurd (List.Subset.refl _) hNone

end Store

/-! ### Runs -/

namespace Entry

variable {e : Entry}

/-- The entry stores a message, by an activity under way, in a channel that is not a shared one. -/
structure Enters (n : Nat) (row : MessageRow) (e : Entry) : Prop where
  strand : e.strand? = some n
  done : e.done = ⟨.call (.insertMessage row), .ok ()⟩
  closed : ∀ kind, e.before.store.database.kind? row.channel = some kind → kind.isShared = false

/-- The entry ends a membership, if there is one. -/
def Revokes (channel user : String) (e : Entry) : Prop :=
  e.done = ⟨.call (.removeMember channel user), .ok ()⟩

theorem Honest.isMember_of_revokes (h : e.Honest) (hRevokes : e.Revokes channel user) :
    e.after.store.database.isMember channel user = false := by
  obtain hAfter : e.before.store.database.removeMember channel user = e.after.store.database :=
    (Prod.mk.inj (Except.ok.inj (h.call hRevokes))).2
  rw [← hAfter]
  exact Store.Database.isMember_removeMember ..

theorem Honest.joins (h : e.Honest) (hJoins : e.Joins channel user) :
    e.done.action = .call (.addMember channel user) ∨
      (e.before.store.database.channel? channel).isNone ∧
        ∃ a b, e.done.action = .call (.findOrCreateDirect channel a b) ∧ (user = a ∨ user = b) := by
  obtain ⟨hBefore, hAfter⟩ := hJoins
  cases h with
  | failed strand? r c cause => simp [hBefore] at hAfter
  | performed strand? r action =>
    cases action with
    | call c =>
      obtain ⟨answer, db, hApply, hStore⟩ | hSame := Store.call_cases r.store c
      · have hJoined : db.isMember channel user := by
          have hDb : (r.store.call c).2.database.isMember channel user := hAfter
          rwa [hStore] at hDb
        obtain rfl | ⟨hNone, a, b, rfl, hUser⟩ := Store.Call.joins hApply hBefore hJoined
        · exact .inl rfl
        · exact .inr ⟨hNone, a, b, rfl, hUser⟩
      · have hDb : (r.store.call c).2.database.isMember channel user := hAfter
        rw [hSame, hBefore] at hDb
        contradiction
    | _ => exact absurd (hBefore.symm.trans hAfter) Bool.false_ne_true

end Entry

namespace Record.Turns

variable {p p' : Record}

theorem grows (hTurns : p.Turns p') (hLog : p.log = [])
    (hStay : p.relay.store.database.faults.vanishChannels = false) {a b : List Entry} {e : Entry}
    (hSplit : p'.log = a ++ e :: b) :
    ∀ e₁ ∈ a, e₁.before.store.database.Grows e.before.store.database := by
  refine ((hTurns.keeps (P := fun r log => r.store.database.faults.vanishChannels = false ∧
    ∀ e₁ ∈ log, Grows e₁.before.store.database r.store.database) ?_ ?_ hLog ⟨hStay, by simp⟩).2
      a e b hSplit).2.1.2
  · rintro e log hHonest ⟨hStay, hGrows⟩
    obtain ⟨hMore, hSame⟩ := hHonest.statements.grow hStay
    refine ⟨hSame ▸ hStay, fun e₁ he₁ => ?_⟩
    rcases List.mem_append.1 he₁ with he₁ | he₁
    · exact (hGrows e₁ he₁).trans hMore
    · obtain rfl := List.mem_singleton.1 he₁
      exact hMore
  · exact fun r log id h => h

/-- Who was no member of a channel after an entry, and has not joined it since, is none. -/
theorem isMember_eq_false (hTurns : p.Turns p') (hLog : p.log = []) {channel user : String}
    {a b : List Entry} {e : Entry} (hSplit : p'.log = a ++ e :: b) {s₁ s₂ : List Entry} {s : Entry}
    (hThen : a = s₁ ++ s :: s₂) (hNot : s.after.store.database.isMember channel user = false)
    (hSince : ∀ j ∈ s₂, ¬ j.Joins channel user) :
    e.before.store.database.isMember channel user = false := by
  refine ((hTurns.keeps (P := fun r log => ∀ s₁ s s₂, log = s₁ ++ s :: s₂ →
    s.after.store.database.isMember channel user = false → (∀ j ∈ s₂, ¬ j.Joins channel user) →
      r.store.database.isMember channel user = false) ?_ ?_ hLog (by simp)).2 a e b hSplit).2.1
        s₁ s s₂ hThen hNot hSince
  · intro e log hHonest hBefore s₁ s s₂ hThen hNot hSince
    rcases split_concat hThen with ⟨rfl, rfl, rfl⟩ | ⟨s₂', hOld, rfl⟩
    · exact hNot
    · have hStill := hBefore s₁ s s₂' hOld hNot fun j hj => hSince j (List.mem_append_left _ hj)
      have hNew := hSince e (List.mem_append_right _ (List.mem_singleton_self _))
      exact Bool.eq_false_iff.2 fun hAfter => hNew ⟨hStill, hAfter⟩
  · exact fun r log id h => h

/-- Who was found to be a member after their membership had ended has joined again. -/
theorem asked_before (hTurns : p.Turns p') (hLog : p.log = []) {channel user : String}
    {a₁ a₂ b : List Entry} {e₁ : Entry} (hSplit : p'.log = a₁ ++ e₁ :: (a₂ ++ b))
    (hAsked : e₁.done.action = .call (.isMember channel user))
    (hMember : e₁.before.store.database.isMember channel user) {s₁ s₂ : List Entry} {s : Entry}
    (hThen : a₁ ++ e₁ :: a₂ = s₁ ++ s :: s₂) (hRevokes : s.Revokes channel user)
    (hSince : ∀ j ∈ s₂, ¬ j.Joins channel user) : a₁.length < s₁.length := by
  have hOther : e₁ ≠ s := by
    rintro rfl
    rw [hRevokes] at hAsked
    simp at hAsked
  obtain ⟨more, rfl, hMore⟩ | ⟨more, rfl, hMore⟩ := List.append_eq_append_iff.1 hThen
  · cases more with
    | nil => exact absurd (List.cons.inj hMore).1 hOther
    | cons first rest => simp
  · cases more with
    | nil => exact absurd (List.cons.inj hMore).1.symm hOther
    | cons first rest =>
      obtain ⟨rfl, rfl⟩ := List.cons.inj hMore
      have hHonest := hTurns.honest hLog (e := s) (by rw [hSplit]; simp)
      have hGone := hTurns.isMember_eq_false hLog hSplit rfl (hHonest.isMember_of_revokes hRevokes)
        fun j hj => hSince j (List.mem_append_left _ hj)
      rw [hMember] at hGone
      contradiction

end Record.Turns

namespace Throng

variable {start : Relay} {p : Throng Posting (Except RelayError Message)}

/-- Whoever posts into a channel that is not shared is a member of it at that moment; and so no message of
theirs enters it from the end of their membership until they join again. -/
structure KeepsOut (p : Throng Posting (Except RelayError Message)) : Prop where
  member : ∀ e ∈ p.log, ∀ n row, e.Enters n row →
    e.before.store.database.isMember row.channel row.sender
  revoked : ∀ a s m e b n row, p.log = a ++ s :: m ++ e :: b → s.Revokes row.channel row.sender →
    (∀ j ∈ m, ¬ j.Joins row.channel row.sender) → ¬ e.Enters n row

/-- What posts hold to.  Whoever posts into a channel that is not shared was a member of it when the same
post asked; if their membership was ended by then and they have not joined again, the post asked before. -/
structure Vetted (p : Throng Posting (Except RelayError Message)) : Prop where
  asked : ∀ a e b n row, p.log = a ++ e :: b → e.Enters n row →
    ∃ t a₁ e₁ a₂, p.strands[n]? = some t ∧ row.sender = t.label.sender ∧ a = a₁ ++ e₁ :: a₂ ∧
      e₁.strand? = some n ∧ e₁.done = ⟨.call (.isMember row.channel row.sender), .ok true⟩ ∧
      e₁.before.store.database.isMember row.channel row.sender ∧
      ∀ s₁ s s₂, a = s₁ ++ s :: s₂ → s.Revokes row.channel row.sender →
        (∀ j ∈ s₂, ¬ j.Joins row.channel row.sender) → a₁.length < s₁.length
  /-- To join a channel that is there is to be added to it. -/
  joins : ∀ e ∈ p.log, ∀ channel user, e.Joins channel user →
    e.done.action = .call (.addMember channel user) ∨
      (e.before.store.database.channel? channel).isNone ∧
        ∃ a b, e.done.action = .call (.findOrCreateDirect channel a b) ∧ (user = a ∨ user = b)

/-- Posts that are under way while memberships change, in any order of the single calls on the store, with
others who do what they like: each was vetted, as long as no channel vanishes. -/
theorem posts_were_members (hStay : start.store.database.faults.vanishChannels = false)
    (hRun : Run Posting.activity start p) : p.Vetted := by
  have hHeeded := hRun.heeded Posting.heeds
  have hHonest : ∀ e ∈ p.log, e.Honest := fun e he => hRun.turns.honest rfl he
  refine ⟨fun a e b n row hLog hEnters => ?_, fun e he channel user hJoins => ?_⟩
  · obtain ⟨t, hStrand, hMay⟩ := hHeeded.log a e b hLog n hEnters.strand
    obtain ⟨hSender, hAdmitted⟩ := hMay row (congrArg Performed.action hEnters.done)
    rw [← hSender] at hAdmitted
    cases hAdmitted with
    | shared h hShared =>
      -- A channel that was found shared would be so still.
      rename_i text
      obtain ⟨e₁, he₁, -, hDone⟩ := exists_of_mem_own h
      have hFound := (hHonest e₁ (hLog ▸ List.mem_append_left _ he₁)).call hDone
      have hText : e₁.before.store.database.kindText? row.channel = some text :=
        (Prod.mk.inj (Except.ok.inj hFound)).1
      have hStill := (hRun.turns.grows rfl hStay hLog e₁ he₁).kindText? hText
      have hClosed := hEnters.closed (.ofText text) (by rw [Store.Database.kind?, hStill]; rfl)
      rw [hShared] at hClosed
      contradiction
    | member h =>
      obtain ⟨e₁, he₁, hMine, hDone⟩ := exists_of_mem_own h
      have hFound := (hHonest e₁ (hLog ▸ List.mem_append_left _ he₁)).call hDone
      have hMember : e₁.before.store.database.isMember row.channel row.sender = true :=
        (Prod.mk.inj (Except.ok.inj hFound)).1
      obtain ⟨a₁, a₂, rfl⟩ := List.append_of_mem he₁
      refine ⟨t, a₁, e₁, a₂, hStrand, hSender, rfl, hMine, hDone, hMember, fun s₁ s s₂ hThen => ?_⟩
      exact hRun.turns.asked_before rfl (b := e :: b) (by rw [hLog]; simp) (congrArg (·.action) hDone)
        hMember hThen
  · exact (hHonest e he).joins hJoins

/-- A post asks, the membership ends, and the post stores its message. -/
theorem run_revoked_meanwhile :
    ∃ p : Throng Posting (Except RelayError Message), Run Posting.activity (.ofDatabase .fresh 1) p ∧
      ∃ e ∈ p.log, ∃ row, e.Enters 0 row ∧
        e.before.store.database.isMember row.channel row.sender = false := by
  have hRun := ((((((((((Relation.ReflTransGen.refl (r := Step Posting.activity)
    (a := { relay := .ofDatabase .fresh 1 })).tail
    (.others _ (.call (.createChannel "staff" "Staff" "private")))).tail
    (.others _ (.call (.addMember "staff" "bob")))).tail
    (.starts _ ⟨"bob", ⟨"staff", [1], [], [], .text⟩, ⟨.zero, 5⟩⟩)).tail
    (.performs _ (n := 0) rfl rfl)).tail
    (.performs _ (n := 0) rfl rfl)).tail
    (.performs _ (n := 0) rfl rfl)).tail
    (.performs _ (n := 0) rfl rfl)).tail
    (.others _ (.call (.removeMember "staff" "bob")))).tail
    (.performs _ (n := 0) rfl rfl))
  refine ⟨_, hRun, _, List.mem_append_right _ (List.mem_singleton_self _), _, ⟨rfl, rfl, ?_⟩, rfl⟩
  intro kind hKind
  obtain rfl : ChannelKind.closed = kind := Option.some.inj hKind
  rfl

theorem posts_were_members_revoked_meanwhile :
    ∃ p : Throng Posting (Except RelayError Message), Run Posting.activity (.ofDatabase .fresh 1) p ∧
      (∃ e ∈ p.log, ∃ row, e.Enters 0 row ∧
        e.before.store.database.isMember row.channel row.sender = false) ∧ p.Vetted := by
  obtain ⟨p, hRun, hEnters⟩ := run_revoked_meanwhile
  exact ⟨p, hRun, hEnters, posts_were_members rfl hRun⟩

/-- To be found a member is not to stay one. -/
theorem not_forall_keeps_out :
    ¬ ∀ (start : Relay) (p : Throng Posting (Except RelayError Message)),
      start.store.database = .fresh → Run Posting.activity start p → p.KeepsOut := by
  intro hAll
  obtain ⟨p, hRun, e, he, row, hEnters, hGone⟩ := run_revoked_meanwhile
  have hMember := (hAll _ p rfl hRun).member e he 0 row hEnters
  rw [hGone] at hMember
  contradiction

end Throng

end ChatRelay
