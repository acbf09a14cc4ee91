import ChatRelay.Proofs.Run
import ChatRelay.Proofs.Store.Windows
import ChatRelay.Proofs.Visibility

/-! Paging through a channel's history.  `Paged` is the loop of a user who asks for a page, takes the time
of its first message as the next cursor, and stops at an empty page.  The loop ends, and shows every message
once and in order but for those at a page's edge: a cursor is a time, so a page that starts in the middle of
messages of one time leaves the earlier of them out.  `Pagination` says what is shown and what is left out. -/

namespace ChatRelay

open Operation (runOn runOn_bind_of_ok runOn_call_of_apply)
open Store (Database MessageRow)

/-! ### The messages of a channel -/

theorem Store.MessageRow.timestamp_of_message? {row : MessageRow} {m : Message}
    (h : row.message? = some m) : m.timestamp = row.timestamp := by
  unfold message? at h
  split at h
  · obtain rfl : _ = m := by simpa using h
    rfl
  · simp at h

namespace Store.Database

/-- The messages of a channel, older than `before` if it is given, by time and in the order of insertion
where times agree. -/
def messagesOf (db : Database) (channel : String) (before : Option Int64) : List Message :=
  (db.record channel before).filterMap MessageRow.message?

/-- Every row of the channel is a message. -/
def Readable (db : Database) (channel : String) : Prop :=
  ∀ row ∈ db.messages, row.channel = channel → row.message?.isSome

instance (db : Database) (channel : String) : Decidable (db.Readable channel) :=
  inferInstanceAs (Decidable (∀ row ∈ db.messages, row.channel = channel → row.message?.isSome))

variable {db : Database} {channel : String}

theorem messagesOf_some (db : Database) (channel : String) (time : Int64) :
    db.messagesOf channel (some time) = (db.messagesOf channel none).filter (·.timestamp < time) := by
  rw [messagesOf, messagesOf, record_some, List.filterMap_filter, List.filter_filterMap]
  refine List.filterMap_congr fun row _ => ?_
  cases hRow : row.message? with
  | none => simp
  | some m =>
    have hTime := MessageRow.timestamp_of_message? hRow
    by_cases hOld : row.timestamp < time <;> simp [Option.filter, hTime, hOld]

theorem filterMap_take {α β : Type} {f : α → Option β} {l : List α} (h : ∀ a ∈ l, (f a).isSome)
    (n : Nat) : (l.take n).filterMap f = (l.filterMap f).take n := by
  induction l generalizing n with
  | nil => simp
  | cons a rest ih =>
    obtain ⟨hFirst, hRest⟩ := List.forall_mem_cons.1 h
    obtain ⟨b, hb⟩ := Option.isSome_iff_exists.1 hFirst
    cases n with
    | zero => simp
    | succ n =>
      rw [List.take_succ_cons, List.filterMap_cons_some hb, List.filterMap_cons_some hb,
        List.take_succ_cons, ih hRest]

theorem filterMap_rtake {α β : Type} {f : α → Option β} {l : List α} (h : ∀ a ∈ l, (f a).isSome)
    (n : Nat) : (l.rtake n).filterMap f = (l.filterMap f).rtake n := by
  rw [List.rtake_eq_reverse_take_reverse, List.rtake_eq_reverse_take_reverse, List.filterMap_reverse,
    filterMap_take (fun a ha => h a (List.mem_reverse.1 ha)), List.filterMap_reverse]

theorem Readable.filterMap_window (h : db.Readable channel) (limit : Nat) (before : Option Int64) :
    (db.window channel limit before).filterMap MessageRow.message? =
      (db.messagesOf channel before).rtake limit := by
  rw [window_eq, filterMap_rtake, messagesOf]
  intro row hRow
  obtain ⟨hMem, hChannel, -⟩ := mem_record.1 hRow
  exact h row hMem hChannel

theorem pairwise_messagesOf (db : Database) (channel : String) (before : Option Int64) :
    (db.messagesOf channel before).Pairwise fun m n => m.timestamp.toInt ≤ n.timestamp.toInt := by
  refine List.Pairwise.filterMap _ (fun row row' hRows m hm n hn => ?_) (pairwise_record db channel before)
  rw [MessageRow.timestamp_of_message? hm, MessageRow.timestamp_of_message? hn]
  exact timeLe_iff.1 hRows

end Store.Database

/-! ### The loop -/

/-- A user asks for pages of at most `limit` messages, first those older than the cursor, if there is one,
and then those older than the first message of the page before, until a page is empty. -/
inductive Paged (ceiling : Nat) (user token : String) (limit : Nat) :
    Relay → Option Int64 → List (List Message) → Relay → Prop
  | last {r r' : Relay} {before : Option Int64}
      (hEmpty : runOn (history ceiling user token (some limit) before) r = (.ok [], r')) :
      Paged ceiling user token limit r before [] r'
  | more {r r' r'' : Relay} {before : Option Int64} {first : Message} {rest : List Message}
      {pages : List (List Message)}
      (hPage : runOn (history ceiling user token (some limit) before) r = (.ok (first :: rest), r'))
      (hOlder : Paged ceiling user token limit r' (some first.timestamp) pages r'') :
      Paged ceiling user token limit r before ((first :: rest) :: pages) r''

/-- The loop has one course. -/
theorem Paged.unique {ceiling limit : Nat} {user token : String} {r r₁ r₂ : Relay}
    {before : Option Int64} {pages₁ pages₂ : List (List Message)}
    (h₁ : Paged ceiling user token limit r before pages₁ r₁)
    (h₂ : Paged ceiling user token limit r before pages₂ r₂) : pages₁ = pages₂ ∧ r₁ = r₂ := by
  induction h₁ generalizing pages₂ r₂ with
  | last hEmpty =>
    cases h₂ with
    | last hEmpty' =>
      rw [hEmpty] at hEmpty'
      exact ⟨rfl, (Prod.ext_iff.1 hEmpty').2⟩
    | more hPage' =>
      rw [hEmpty] at hPage'
      simp at hPage'
  | more hPage _ ih =>
    cases h₂ with
    | last hEmpty' =>
      rw [hPage] at hEmpty'
      simp at hEmpty'
    | more hPage' hOlder' =>
      rw [hPage] at hPage'
      obtain ⟨⟨rfl, rfl⟩, rfl⟩ : (_ = _ ∧ _ = _) ∧ _ = _ := by simpa using hPage'
      obtain ⟨rfl, rfl⟩ := ih hOlder'
      exact ⟨rfl, rfl⟩

/-! ### What is shown -/

/-- `pages`, newest first, show `messages`, but for the messages in `skipped` that stand right before each
page.  A page is as long as the limit and the messages allow; what it skips has the time of its first
message, and what is left for the next page is older. -/
inductive Pagination (limit : Nat) : List (List Message) → List (List Message) → List Message → Prop
  | nil : Pagination limit [] [] []
  | page {skipped pages : List (List Message)} {older edge rest : List Message} {first : Message}
      (hOlder : Pagination limit skipped pages older)
      (hSize : (first :: rest).length = min limit (older ++ edge ++ first :: rest).length)
      (hTimes : ∀ m ∈ older, m.timestamp < first.timestamp)
      (hEdge : ∀ m ∈ edge, m.timestamp = first.timestamp) :
      Pagination limit (edge :: skipped) ((first :: rest) :: pages) (older ++ edge ++ first :: rest)

namespace Pagination

variable {limit : Nat} {skipped pages : List (List Message)} {messages : List Message}

theorem length_skipped (h : Pagination limit skipped pages messages) : skipped.length = pages.length := by
  induction h with
  | nil => rfl
  | page _ _ _ _ ih => rw [List.length_cons, List.length_cons, ih]

/-- With what they skip put before them, the pages are all the messages. -/
theorem flatten_zipWith (h : Pagination limit skipped pages messages) :
    (List.zipWith (· ++ ·) skipped pages).reverse.flatten = messages := by
  induction h with
  | nil => rfl
  | page _ _ _ _ ih => simp [ih]

theorem sublist (h : Pagination limit skipped pages messages) :
    pages.reverse.flatten.Sublist messages := by
  induction h with
  | nil => exact .slnil
  | @page skipped pages older edge rest first _ _ _ _ ih =>
    rw [List.reverse_cons, List.flatten_append, List.flatten_singleton]
    exact (ih.trans (List.sublist_append_left older edge)).append (.refl _)

theorem flatten_eq_iff (h : Pagination limit skipped pages messages) :
    pages.reverse.flatten = messages ↔ ∀ edge ∈ skipped, edge = [] := by
  induction h with
  | nil => simp
  | @page skipped pages older edge rest first hOlder _ _ _ ih =>
    rw [List.reverse_cons, List.flatten_append, List.flatten_singleton, List.append_cancel_right_eq,
      List.forall_mem_cons, ← ih]
    constructor
    · intro hAll
      have hShort := hOlder.sublist.length_le
      have hLengths := congrArg List.length hAll
      rw [List.length_append] at hLengths
      obtain rfl : edge = [] := List.eq_nil_of_length_eq_zero (by omega)
      exact ⟨rfl, by simpa using hAll⟩
    · rintro ⟨rfl, hRest⟩
      rw [hRest, List.append_nil]

theorem skipped_eq_nil (h : Pagination limit skipped pages messages)
    (hTimes : (messages.map (·.timestamp)).Nodup) : ∀ edge ∈ skipped, edge = [] := by
  induction h with
  | nil => simp
  | @page skipped pages older edge rest first _ _ _ hEdge ih =>
    rw [List.map_append, List.map_append, List.nodup_append, List.nodup_append] at hTimes
    obtain ⟨⟨hOlder, -, -⟩, -, hApart⟩ := hTimes
    refine List.forall_mem_cons.2 ⟨List.eq_nil_iff_forall_not_mem.2 fun m hm => ?_, ih hOlder⟩
    refine hApart m.timestamp ?_ first.timestamp ?_ (hEdge m hm)
    · exact List.mem_append_right _ (List.mem_map_of_mem hm)
    · exact List.mem_map_of_mem List.mem_cons_self

/-- Of messages of one time, no more are shown than fit on a page. -/
theorem length_of_one_time (h : Pagination limit skipped pages messages) {time : Int64}
    (hTime : ∀ m ∈ messages, m.timestamp = time) :
    pages.reverse.flatten.length = min limit messages.length := by
  cases h with
  | nil => simp
  | @page skipped pages older edge rest first hOlder hSize hTimes _ =>
    obtain rfl : older = [] := by
      refine List.eq_nil_iff_forall_not_mem.2 fun m hm => ?_
      have hBefore := hTimes m hm
      rw [hTime m (by simp [hm]), hTime first (by simp), Int64.lt_iff_toInt_lt] at hBefore
      omega
    rw [List.reverse_cons, List.flatten_append, List.flatten_singleton,
      List.sublist_nil.1 hOlder.sublist, List.nil_append, hSize]

end Pagination

/-! ### Pages of a sorted list -/

theorem filter_lt_append_filter_eq {time : Int64} {messages : List Message}
    (hUp : messages.Pairwise fun m n => m.timestamp.toInt ≤ n.timestamp.toInt)
    (hLast : ∀ m ∈ messages, m.timestamp.toInt ≤ time.toInt) :
    messages.filter (·.timestamp < time) ++ messages.filter (·.timestamp = time) = messages := by
  induction messages with
  | nil => rfl
  | cons m rest ih =>
    obtain ⟨hFirst, hUp⟩ := List.pairwise_cons.1 hUp
    obtain ⟨hM, hLast⟩ := List.forall_mem_cons.1 hLast
    by_cases hOld : m.timestamp < time
    · have hNe : m.timestamp ≠ time := by
        rintro rfl
        rw [Int64.lt_iff_toInt_lt] at hOld
        omega
      rw [List.filter_cons_of_pos (by simpa using hOld), List.filter_cons_of_neg (by simpa using hNe),
        List.cons_append, ih hUp hLast]
    · -- From the first message of the time on, all have it.
      have hSame : ∀ n ∈ m :: rest, n.timestamp = time := by
        intro n hn
        rw [Int64.lt_iff_toInt_lt] at hOld
        rw [← Int64.toInt_inj]
        rcases List.mem_cons.1 hn with rfl | hn
        · omega
        · have := hFirst n hn
          have := hLast n hn
          omega
      have hNone : (m :: rest).filter (·.timestamp < time) = [] := by
        refine List.filter_eq_nil_iff.2 fun n hn => ?_
        rw [hSame n hn, decide_eq_true_iff, Int64.lt_iff_toInt_lt]
        omega
      rw [hNone, List.nil_append, List.filter_eq_self.2 fun n hn => by simpa using hSame n hn]

/-- The first page of a list that goes up in time, with what it skips and what is left. -/
theorem exists_page {limit : Nat} (hLimit : 1 ≤ limit) {messages : List Message}
    (hUp : messages.Pairwise fun m n => m.timestamp.toInt ≤ n.timestamp.toInt) (hSome : messages ≠ []) :
    ∃ first rest edge, messages.rtake limit = first :: rest ∧
      messages = messages.filter (·.timestamp < first.timestamp) ++ edge ++ first :: rest ∧
      ∀ m ∈ edge, m.timestamp = first.timestamp := by
  have hPos := List.length_pos_of_ne_nil hSome
  have hSplit : messages.take (messages.length - limit) ++ messages.rtake limit = messages :=
    List.take_append_drop _ _
  obtain ⟨first, rest, hPage⟩ : ∃ first rest, messages.rtake limit = first :: rest := by
    refine List.exists_cons_of_ne_nil fun hNil => ?_
    rw [hNil, List.append_nil] at hSplit
    have := congrArg List.length hSplit
    rw [List.length_take] at this
    omega
  rw [hPage] at hSplit
  generalize messages.take (messages.length - limit) = front at hSplit
  subst hSplit
  obtain ⟨hFront, hBack, hAcross⟩ := List.pairwise_append.1 hUp
  have hLast : ∀ m ∈ front, m.timestamp.toInt ≤ first.timestamp.toInt := fun m hm =>
    hAcross m hm first List.mem_cons_self
  have hNewer : (first :: rest).filter (·.timestamp < first.timestamp) = [] := by
    refine List.filter_eq_nil_iff.2 fun m hm => ?_
    rw [decide_eq_true_iff, Int64.lt_iff_toInt_lt]
    rcases List.mem_cons.1 hm with rfl | hm
    · omega
    · have := (List.pairwise_cons.1 hBack).1 m hm
      omega
  refine ⟨first, rest, front.filter (·.timestamp = first.timestamp), hPage, ?_, fun m hm => ?_⟩
  · rw [List.filter_append, hNewer, List.append_nil, filter_lt_append_filter_eq hFront hLast]
  · simpa using (List.mem_filter.1 hm).2

/-! ### Paging through a channel -/

variable {r : Relay} {user channel : String}

theorem history_runOn_of_sees (hUsable : r.store.poisoned = false) (hName : channel ≠ "")
    (hSees : r.store.database.sees user channel) (hReadable : r.store.database.Readable channel)
    (ceiling limit : Nat) (before : Option Int64) :
    runOn (history ceiling user channel (some limit) before) r =
      (.ok ((r.store.database.messagesOf channel before).rtake (min limit ceiling)), r) := by
  obtain ⟨row, h⟩ := Option.isSome_iff_exists.1 (Database.channel?_isSome_of_sees hSees)
  unfold history
  rw [runOn_bind_of_ok (resolve_runOn hUsable hName h user), runOn_after_authorize hUsable h,
    if_pos hSees, storedHistory, runOn_bind_of_ok (runOn_call_of_apply hUsable rfl), Operation.runOn_pure]
  exact congrArg (fun messages => (Except.ok messages, r)) (hReadable.filterMap_window _ before)

theorem filter_messagesOf {db : Database} {before : Option Int64} {first : Message}
    (h : first ∈ db.messagesOf channel before) :
    (db.messagesOf channel before).filter (·.timestamp < first.timestamp) =
      db.messagesOf channel (some first.timestamp) := by
  cases before with
  | none => rw [Database.messagesOf_some]
  | some time =>
    rw [Database.messagesOf_some, List.mem_filter, decide_eq_true_iff] at h
    rw [Database.messagesOf_some, Database.messagesOf_some, List.filter_filter]
    refine List.filter_congr fun m _ => ?_
    have hTime := h.2
    rw [Bool.eq_iff_iff]
    simp only [Bool.and_eq_true, decide_eq_true_eq, Int64.lt_iff_toInt_lt] at hTime ⊢
    omega

/-- The loop ends, wherever it starts. -/
theorem exists_paged (hUsable : r.store.poisoned = false) (hName : channel ≠ "")
    (hSees : r.store.database.sees user channel) (hReadable : r.store.database.Readable channel)
    {ceiling limit : Nat} (hLimit : 1 ≤ limit) (hCeiling : limit ≤ ceiling) (before : Option Int64) :
    ∃ pages skipped, Paged ceiling user channel limit r before pages r ∧
      Pagination limit skipped pages (r.store.database.messagesOf channel before) := by
  -- Each page leaves fewer messages for the rest of the loop.
  induction hLength : (r.store.database.messagesOf channel before).length using Nat.strong_induction_on
    generalizing before with
  | _ length ih =>
    have hHistory := history_runOn_of_sees hUsable hName hSees hReadable ceiling limit before
    rw [Nat.min_eq_left hCeiling] at hHistory
    by_cases hNone : r.store.database.messagesOf channel before = []
    · rw [hNone, List.rtake_nil] at hHistory
      rw [hNone]
      exact ⟨[], [], .last hHistory, .nil⟩
    have hUp := r.store.database.pairwise_messagesOf channel before
    obtain ⟨first, rest, edge, hPage, hSplit, hEdge⟩ := exists_page hLimit hUp hNone
    have hFirst : first ∈ r.store.database.messagesOf channel before := by
      rw [hSplit]
      exact List.mem_append_right _ List.mem_cons_self
    rw [filter_messagesOf hFirst] at hSplit
    have hFewer : (r.store.database.messagesOf channel (some first.timestamp)).length < length := by
      have := congrArg List.length hSplit
      rw [hLength, List.length_append, List.length_append, List.length_cons] at this
      omega
    obtain ⟨pages, skipped, hPaged, hPagination⟩ := ih _ hFewer (some first.timestamp) rfl
    rw [hPage] at hHistory
    refine ⟨(first :: rest) :: pages, edge :: skipped, .more hHistory hPaged, ?_⟩
    rw [hSplit]
    refine .page hPagination ?_ (fun m hm => ?_) hEdge
    · rw [← hSplit, ← hPage, List.rtake, List.length_drop]
      omega
    · rw [← filter_messagesOf hFirst, List.mem_filter, decide_eq_true_iff] at hm
      exact hm.2

/-- Paging through a channel of messages, by a user who may see it, ends and leaves the relay as it is.
The pages show the messages of the channel in the order of time and insertion, each once; left out are just
those that stand before a page and have the time of its first message.  So all are shown exactly if no page
starts in the middle of messages of one time, and always where no two messages have the same time. -/
theorem paging_shows_all_but_edges (hUser : (runOn (authorize user channel) r).1.isOk)
    (hName : channel ≠ "") (hReadable : r.store.database.Readable channel) {ceiling limit : Nat}
    (hLimit : 1 ≤ limit) (hCeiling : limit ≤ ceiling) :
    ∃ pages skipped, (∀ pages' r', Paged ceiling user channel limit r none pages' r' ↔
        pages' = pages ∧ r' = r) ∧
      Pagination limit skipped pages (r.store.database.messagesOf channel none) ∧
      pages.reverse.flatten.Sublist (r.store.database.messagesOf channel none) ∧
      (pages.reverse.flatten = r.store.database.messagesOf channel none ↔ ∀ edge ∈ skipped, edge = []) ∧
      (((r.store.database.messagesOf channel none).map (·.timestamp)).Nodup →
        pages.reverse.flatten = r.store.database.messagesOf channel none) := by
  have hUsable := usable_of_authorize_isOk hUser
  have hSees : r.store.database.sees user channel := by
    have hAccess := authorize_runOn hUsable user channel
    rw [hAccess] at hUser
    unfold Database.access at hUser
    split at hUser
    · exact isOk_allowed.1 hUser
    · simp [Except.isOk, Except.toBool] at hUser
  obtain ⟨pages, skipped, hPaged, hPagination⟩ :=
    exists_paged hUsable hName hSees hReadable hLimit hCeiling none
  refine ⟨pages, skipped, fun pages' r' => ⟨fun h => h.unique hPaged, ?_⟩, hPagination,
    hPagination.sublist, hPagination.flatten_eq_iff, fun hTimes => ?_⟩
  · rintro ⟨rfl, rfl⟩
    exact hPaged
  · exact hPagination.flatten_eq_iff.2 (hPagination.skipped_eq_nil hTimes)

/-- A relay with two messages of one time in the shared channel. -/
def Relay.ofTwins : Relay :=
  .ofDatabase { Database.fresh with messages :=
    [{ id := Uuid.zero.toString, channel := "general", sender := "bob", timestamp := 5, kind := 1 },
      { id := "11111111-1111-1111-1111-111111111111", channel := "general", sender := "bob",
        timestamp := 5, kind := 1 }] } 1

/-- Two messages of one time, on one page. -/
theorem paging_shows_all_but_edges_twins :
    ∃ pages skipped, (∀ pages' r', Paged 100 "ann" "general" 2 .ofTwins none pages' r' ↔
        pages' = pages ∧ r' = .ofTwins) ∧
      Pagination 2 skipped pages (Relay.ofTwins.store.database.messagesOf "general" none) ∧
      pages.reverse.flatten.Sublist (Relay.ofTwins.store.database.messagesOf "general" none) ∧
      (pages.reverse.flatten = Relay.ofTwins.store.database.messagesOf "general" none ↔
        ∀ edge ∈ skipped, edge = []) ∧
      (((Relay.ofTwins.store.database.messagesOf "general" none).map (·.timestamp)).Nodup →
        pages.reverse.flatten = Relay.ofTwins.store.database.messagesOf "general" none) :=
  paging_shows_all_but_edges (by decide) (by decide) (by decide) (by decide) (by decide)

/-- Paging may lose a message: one of two that have the same time, if each has a page of its own. -/
theorem not_forall_paging_shows_all :
    ¬ ∀ (r : Relay) (user channel : String) (ceiling limit : Nat),
      (runOn (authorize user channel) r).1.isOk → r.store.database.Readable channel →
      1 ≤ limit → limit ≤ ceiling →
      ∃ pages r', Paged ceiling user channel limit r none pages r' ∧
        pages.reverse.flatten = r.store.database.messagesOf channel none := by
  intro h
  have hReadable : Relay.ofTwins.store.database.Readable "general" := by decide
  obtain ⟨pages, r', hPaged, hAll⟩ :=
    h .ofTwins "ann" "general" 100 1 (by decide) hReadable (by decide) (by decide)
  have hSees : Relay.ofTwins.store.database.sees "ann" "general" := by decide
  obtain ⟨pages', skipped, hPaged', hPagination⟩ :=
    @exists_paged .ofTwins _ _ rfl (by decide) hSees hReadable 100 1 (by decide) (by decide) none
  obtain ⟨rfl, -⟩ := hPaged.unique hPaged'
  have hRecord : Relay.ofTwins.store.database.record "general" none =
      Relay.ofTwins.store.database.messages := List.mergeSort_of_pairwise (by decide)
  have hLength : (Relay.ofTwins.store.database.messagesOf "general" none).length = 2 := by
    rw [Database.messagesOf, hRecord]
    decide
  have hTime : ∀ m ∈ Relay.ofTwins.store.database.messagesOf "general" none, m.timestamp = 5 := by
    rw [Database.messagesOf, hRecord]
    decide
  have hOne := hPagination.length_of_one_time hTime
  rw [hAll, hLength] at hOne
  contradiction

end ChatRelay
