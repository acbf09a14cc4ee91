import ChatRelay.Proofs.Activity
import ChatRelay.Proofs.Store.Changes
import ChatRelay.Relay.Browse
import ChatRelay.Relay.Post

/-! What each operation of the relay may do: which of them only look, which may open a direct conversation,
and that only a post stores a message or offers a frame.  `Service` is what can be asked of the relay, and
`Move` what one user asks for and is answered. -/

namespace ChatRelay

open Operation (Always Uses)

namespace Action

/-- The action does not touch the messages. -/
def IsBlind : Action → Prop
  | call (.messages ..) | call (.insertMessage _) => False
  | _ => True

/-- The action looks at the store, and not at the messages. -/
def Looks (action : Action) : Prop :=
  action.IsRead ∧ action.IsBlind

/-- The action opens the direct conversation of two different users. -/
def Opens (action : Action) : Prop :=
  ∃ a b : String, a ≠ b ∧ action = .call (.findOrCreateDirect (directChannel a b) a b)

/-- The action opens the direct conversation of the user with another. -/
def OpensFor (user : String) (action : Action) : Prop :=
  ∃ other : String, user ≠ other ∧
    action = .call (.findOrCreateDirect (directChannel user other) user other)

/-- The action looks at the store and not at the messages, or opens a direct conversation. -/
def Finds (action : Action) : Prop :=
  action.Looks ∨ action.Opens

def FindsFor (user : String) (action : Action) : Prop :=
  action.Looks ∨ action.OpensFor user

/-- The action looks at the store, or opens a direct conversation. -/
def Browses (action : Action) : Prop :=
  action.IsRead ∨ action.Opens

/-- The action stores a message, or gets the time for one. -/
def Appends : Action → Prop
  | call (.insertMessage _) | stamp _ => True
  | _ => False

/-- The action is part of a fan-out of a frame. -/
def Spreads (text : Frame) : Action → Prop
  | offer _ frame => frame = text
  | unregister _ => True
  | _ => False

/-- The action is one that a post may perform. -/
def Posts (action : Action) : Prop :=
  action.Browses ∨ action.Appends ∨ ∃ text, action.Spreads text

theorem isRead_call {c : Store.Call} (h : c.IsRead) : (Action.call c).IsRead :=
  ⟨c, h, rfl⟩

theorem Finds.browses {action : Action} (h : action.Finds) : action.Browses :=
  h.imp_left And.left

theorem FindsFor.finds {user : String} {action : Action} (h : action.FindsFor user) : action.Finds :=
  h.imp_right fun ⟨other, hOther, hAction⟩ => ⟨user, other, hOther, hAction⟩

theorem IsRead.not_onRegistry {action : Action} (h : action.IsRead) : ¬ action.OnRegistry := by
  obtain ⟨c, -, rfl⟩ := h
  exact id

theorem Browses.not_onRegistry {action : Action} (h : action.Browses) : ¬ action.OnRegistry := by
  obtain h | ⟨a, b, -, rfl⟩ := h
  · exact h.not_onRegistry
  · exact id

theorem Appends.not_onRegistry {action : Action} (h : action.Appends) : ¬ action.OnRegistry := by
  cases action <;> first | exact id | exact False.elim h

theorem Spreads.onRegistry {action : Action} {text : Frame} (h : action.Spreads text) :
    action.OnRegistry := by
  cases action <;> trivial

end Action

open ChatRelay.Action (IsRead Looks Finds FindsFor Browses isRead_call)

/-! ### Looking -/

theorem Operation.Uses.read {c : Store.Call} (h : c.IsRead) : Uses IsRead (Operation.call c) :=
  .call (isRead_call h)

/-- An activity that only looks at the store leaves the relay as it was. -/
theorem Activity.run_of_isRead {α : Type} {t : Activity α} (h : t.Uses IsRead) (r : Relay) :
    (t.run r).2 = r := by
  refine h.run (P := fun r₁ => r₁ = r) ?_ rfl
  intro action r₁ hAction hSame
  rw [Action.perform_of_isRead hAction, hSame]

theorem Operation.Uses.look {c : Store.Call} (h : c.IsRead) (hBlind : (Action.call c).IsBlind) :
    Uses Looks (Operation.call c) :=
  .call ⟨isRead_call h, hBlind⟩

theorem channelKind_looks (channel : String) : Uses Looks (channelKind channel) := by
  refine .bind (.look trivial trivial) fun text => ?_
  cases text with
  | some text => exact .pure _
  | none => exact .throw _

/-- A destination that is another user is not the sender. -/
theorem classify_always (sender token : String) :
    Always Looks (fun d => ∀ user, d = .direct user → sender ≠ user) (classify sender token) := by
  unfold classify
  split
  · exact .pure (by simp)
  refine .bind (Uses.look trivial trivial) fun text _ => ?_
  split
  · exact .pure (by simp)
  refine .bind (Uses.look trivial trivial) fun known _ => ?_
  split
  · exact .pure (by simp)
  split
  · exact .throw _
  · rename_i hOther
    refine .pure fun user hUser => ?_
    obtain rfl : token = user := by simpa using hUser
    exact fun hSame => hOther hSame.symm

theorem authorize_looks (user channel : String) : Uses Looks (authorize user channel) := by
  refine .bind (channelKind_looks channel) fun kind => ?_
  split
  · exact .pure _
  refine .bind (.look trivial trivial) fun member => ?_
  cases member with
  | true => exact .pure _
  | false => exact .throw _

theorem authorize_uses (user channel : String) : Uses IsRead (authorize user channel) :=
  (authorize_looks user channel).mono fun _ => And.left

theorem audienceOf_looks (channel : String) : Uses Looks (audienceOf channel) := by
  refine .bind (channelKind_looks channel) fun kind => ?_
  split
  · exact .pure _
  · exact .bind (.look trivial trivial) fun ids => .pure _

theorem storedHistory_uses (channel : String) (limit : Nat) (before : Option Int64) :
    Uses IsRead (storedHistory channel limit before) :=
  .bind (.read trivial) fun _ => .pure _

theorem userIdFor_uses (username : String) : Uses IsRead (userIdFor username) :=
  .read trivial

theorem listChannels_looks (user : String) : Uses Looks (listChannels user) :=
  .bind (.look trivial trivial) fun _ => .pure _

theorem listMembers_looks (user channel : String) : Uses Looks (listMembers user channel) :=
  .bind (authorize_looks user channel) fun _ => .bind (.look trivial trivial) fun _ => .pure _

/-! ### Opening a conversation -/

theorem openDirect_findsFor {a b : String} (h : a ≠ b) : Uses (FindsFor a) (openDirect a b) :=
  .bind (.call (.inr ⟨b, h, rfl⟩)) fun _ => .pure _

theorem resolve_findsFor (sender token : String) : Uses (FindsFor sender) (resolve sender token) := by
  refine Always.bind ((classify_always sender token).mono (fun _ => .inl) fun _ => id) fun d hOther => ?_
  cases d with
  | channel id => exact Uses.pure _
  | direct user => exact openDirect_findsFor (hOther user rfl)
  | missing => exact .throw _

theorem resolve_finds (sender token : String) : Uses Finds (resolve sender token) :=
  (resolve_findsFor sender token).mono fun _ => Action.FindsFor.finds

theorem resolve_uses (sender token : String) : Uses Browses (resolve sender token) :=
  (resolve_finds sender token).mono fun _ => Finds.browses

theorem history_uses (ceiling : Nat) (user token : String) (limit : Option Nat) (before : Option Int64) :
    Uses Browses (history ceiling user token limit before) :=
  .bind (resolve_uses user token) fun channel =>
    .bind ((authorize_uses user channel).mono fun _ => .inl) fun _ =>
      (storedHistory_uses channel _ before).mono fun _ => .inl

theorem createDirect_findsFor (user target : String) :
    Uses (FindsFor user) (createDirect user target) := by
  unfold createDirect
  split
  · exact .throw _
  rename_i hOther
  refine .bind (.mono (.look trivial trivial) fun _ => .inl) fun known => ?_
  cases known with
  | true => exact openDirect_findsFor hOther
  | false => exact .throw _

theorem createDirect_finds (user target : String) : Uses Finds (createDirect user target) :=
  (createDirect_findsFor user target).mono fun _ => Action.FindsFor.finds

theorem createDirect_uses (user target : String) : Uses Browses (createDirect user target) :=
  (createDirect_finds user target).mono fun _ => Finds.browses

/-! ### What can be asked of the relay -/

/-- What can be asked of the relay, apart from posting. -/
inductive Service where
  | resolve (sender token : String)
  | authorize (user channel : String)
  | history (ceiling : Nat) (user token : String) (limit : Option Nat) (before : Option Int64)
  | userIdFor (username : String)
  | listChannels (user : String)
  | listMembers (user channel : String)
  | createDirect (user target : String)

/-- The operation for what is asked; what it answers is left out. -/
def Service.operation : Service → Operation Unit
  | resolve sender token => do let _ ← ChatRelay.resolve sender token
  | authorize user channel => do let _ ← ChatRelay.authorize user channel
  | history ceiling user token limit before => do
    let _ ← ChatRelay.history ceiling user token limit before
  | userIdFor username => do let _ ← ChatRelay.userIdFor username
  | listChannels user => do let _ ← ChatRelay.listChannels user
  | listMembers user channel => do let _ ← ChatRelay.listMembers user channel
  | createDirect user target => do let _ ← ChatRelay.createDirect user target

/-- Whatever is asked, the relay looks at the store and opens direct conversations, and nothing else. -/
theorem Service.uses (s : Service) : Uses Browses s.operation := by
  cases s with
  | resolve sender token => exact .bind (resolve_uses sender token) fun _ => .pure _
  | authorize user channel =>
    exact .bind ((authorize_uses user channel).mono fun _ => .inl) fun _ => .pure _
  | history ceiling user token limit before =>
    exact .bind (history_uses ceiling user token limit before) fun _ => .pure _
  | userIdFor username =>
    exact .bind ((userIdFor_uses username).mono fun _ => .inl) fun _ => .pure _
  | listChannels user =>
    exact .bind ((listChannels_looks user).mono fun _ h => .inl h.1) fun _ => .pure _
  | listMembers user channel =>
    exact .bind ((listMembers_looks user channel).mono fun _ h => .inl h.1) fun _ => .pure _
  | createDirect user target => exact .bind (createDirect_uses user target) fun _ => .pure _

/-! ### Posting -/

theorem append_uses (sender channel : String) (req : SendRequest) (fresh : Fresh) :
    Uses Action.Appends (append sender channel req fresh) :=
  .bind (.perform trivial) fun _ => .bind (.call trivial) fun _ => .pure _

theorem shedAll_uses (slow : List ConnectionId) (text : Frame) :
    (shedAll slow).Uses (Action.Spreads text) := by
  induction slow with
  | nil => exact .pure _
  | cons id rest ih => exact .bind (.ofAction trivial) fun _ => .bind ih fun _ => .pure _

theorem deliver_uses (audience : Registry.Audience) (text : Frame) :
    (deliver audience text).Uses (Action.Spreads text) :=
  .bind (.ofAction rfl) fun report => .bind (shedAll_uses report.slow text) fun _ => .pure _

theorem broadcast_looks (m : Message) :
    Uses (fun action => action.Looks ∨ action.Spreads m.frame) (broadcast m) :=
  .bind ((audienceOf_looks m.channel).mono fun _ => .inl) fun audience =>
    .lift ((deliver_uses audience m.frame).mono fun _ => .inr)

theorem broadcast_uses (m : Message) :
    Uses (fun action => action.IsRead ∨ action.Spreads m.frame) (broadcast m) :=
  (broadcast_looks m).mono fun _ => Or.imp_left And.left

theorem post_uses (sender : String) (req : SendRequest) (fresh : Fresh) :
    Uses Action.Posts (post sender req fresh) := by
  refine .bind ((resolve_uses sender req.destination).mono fun _ => .inl) fun channel => ?_
  refine .bind ((authorize_uses sender channel).mono fun _ h => .inl (.inl h)) fun kind => ?_
  refine .bind ((append_uses sender channel req fresh).mono fun _ h => .inr (.inl h)) fun m => ?_
  refine .bind (.attempt ((broadcast_uses m).mono fun action h => ?_)) fun _ => .pure _
  exact h.elim (fun h => .inl (.inl h)) fun h => .inr (.inr ⟨m.frame, h⟩)

/-! ### What a user asks for -/

/-- What a user may ask for. -/
inductive Move where
  | resolve (token : String)
  | history (ceiling : Nat) (token : String) (limit : Option Nat) (before : Option Int64)
  | listChannels
  | listMembers (channel : String)
  | createDirect (target : String)
  | post (req : SendRequest) (fresh : Fresh)

/-- What a user is answered. -/
inductive Reply where
  | channel (id : String)
  | messages (found : List Message)
  | channels (found : List Channel)
  | members (found : List ChannelMember)
  | message (m : Message)
  deriving DecidableEq

/-- The operation for what a user asks, with its answer. -/
def Move.operation (user : String) : Move → Operation Reply
  | resolve token => do return .channel (← ChatRelay.resolve user token)
  | history ceiling token limit before => do
    return .messages (← ChatRelay.history ceiling user token limit before)
  | listChannels => do return .channels (← ChatRelay.listChannels user)
  | listMembers channel => do return .members (← ChatRelay.listMembers user channel)
  | createDirect target => do return .channel (← ChatRelay.createDirect user target)
  | post req fresh => do return .message (← ChatRelay.post user req fresh)

end ChatRelay
