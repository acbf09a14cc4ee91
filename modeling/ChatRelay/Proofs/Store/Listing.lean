import ChatRelay.Proofs.Store.Windows
import ChatRelay.Store.Call

/-! What a window of messages answers, said without a sort.  `Lists` says of numbered rows that they are what
a channel holds, in the order of time and insertion; there is one such list, and a window is its end.  Both
sorts of the window, and the rows of other channels, leave no trace. -/

namespace ChatRelay.Store.Database

variable {db : Database} {channel : String} {before : Option Int64}

/-- A row is older than another, or as old and inserted before it. -/
def Earlier (a b : MessageRow × Nat) : Prop :=
  a.1.timestamp < b.1.timestamp ∨ a.1.timestamp = b.1.timestamp ∧ a.2 < b.2

instance : DecidableRel Earlier := fun a b =>
  inferInstanceAs (Decidable (a.1.timestamp < b.1.timestamp ∨ a.1.timestamp = b.1.timestamp ∧ a.2 < b.2))

/-- `rows` are all that a channel holds, older than `before` if it is given, each with its place in the order
of insertion, and the earlier ones come first. -/
structure Lists (db : Database) (channel : String) (before : Option Int64)
    (rows : List (MessageRow × Nat)) : Prop where
  mem : ∀ row place, (row, place) ∈ rows ↔
    db.messages[place]? = some row ∧ row.channel = channel ∧ ∀ b ∈ before, row.timestamp < b
  ordered : rows.Pairwise Earlier

/-! ### One listing -/

theorem earlier_iff {a b : MessageRow × Nat} :
    Earlier a b ↔ a.1.timestamp.toInt < b.1.timestamp.toInt ∨
      a.1.timestamp.toInt = b.1.timestamp.toInt ∧ a.2 < b.2 := by
  rw [Earlier, Int64.lt_iff_toInt_lt, Int64.toInt_inj]

theorem not_earlier_self (a : MessageRow × Nat) : ¬ Earlier a a := by
  rw [earlier_iff]
  omega

theorem Earlier.asymm {a b : MessageRow × Nat} (h : Earlier a b) : ¬ Earlier b a := by
  rw [earlier_iff] at *
  omega

theorem Lists.nodup {rows : List (MessageRow × Nat)} (h : db.Lists channel before rows) : rows.Nodup := by
  refine List.Pairwise.imp (fun hEarlier => ?_) h.ordered
  rintro rfl
  exact not_earlier_self _ hEarlier

theorem Lists.unique {rows rows' : List (MessageRow × Nat)} (h : db.Lists channel before rows)
    (h' : db.Lists channel before rows') : rows = rows' := by
  have hPerm : rows.Perm rows' := by
    refine (List.perm_ext_iff_of_nodup h.nodup h'.nodup).2 fun a => ?_
    rw [h.mem, h'.mem]
  exact hPerm.eq_of_pairwise (fun _ _ _ _ hab hba => absurd hba hab.asymm) h.ordered h'.ordered

theorem earlier_of_notLater {a b : MessageRow × Nat} (ha : a ∈ db.messages.zipIdx)
    (hb : b ∈ db.messages.zipIdx) (h : notLater a b) (hNe : a ≠ b) : Earlier a b := by
  by_contra hNot
  refine hNe (eq_of_notLater ha hb h ?_)
  rw [notLater_iff] at *
  rw [earlier_iff] at hNot
  omega

theorem lists_numberedRecord (db : Database) (channel : String) (before : Option Int64) :
    db.Lists channel before (db.numberedRecord channel before) where
  mem row place := (List.mergeSort_perm _ _).mem_iff.trans mem_numbered
  ordered := by
    have hUp := db.pairwise_numberedRecord channel before
    refine (hUp.and (db.nodup_numberedRecord channel before)).imp_of_mem fun ha hb ⟨hLe, hNe⟩ => ?_
    exact earlier_of_notLater (mem_zipIdx_of_mem_numberedRecord ha) (mem_zipIdx_of_mem_numberedRecord hb)
      hLe hNe

/-! ### Windows of one channel -/

theorem rtake_suffix_rtake {α : Type} (l : List α) {n m : Nat} (h : n ≤ m) : l.rtake n <:+ l.rtake m := by
  have hDrop : l.length - n = l.length - m + ((l.length - n) - (l.length - m)) := by omega
  rw [List.rtake, List.rtake, hDrop, ← List.drop_drop]
  exact List.drop_suffix _ _

/-- The record of a channel depends on its own rows alone. -/
theorem record_eq_of_filter_eq {db' : Database}
    (h : db'.messages.filter (·.channel = channel) = db.messages.filter (·.channel = channel))
    (before : Option Int64) : db'.record channel before = db.record channel before := by
  have hSplit (rows : List MessageRow) :
      rows.filter (fun m => m.channel = channel ∧ before.all (fun b => m.timestamp < b)) =
        (rows.filter (·.channel = channel)).filter fun m => before.all (fun b => m.timestamp < b) := by
    rw [List.filter_filter]
    refine List.filter_congr fun m _ => ?_
    rw [Bool.eq_iff_iff]
    simp [and_comm]
  rw [record, record, hSplit, hSplit, h]

/-- A window is exact.  Whatever messages a store holds, of any channels, with any times and in any order, the
rows of a channel that are older than the cursor, or all of them if there is none, are in just one order by
time and insertion; and what is answered for a limit are the last of them, as many as the limit allows and
there are.  The store stays as it was.  So the answer for a smaller limit is the end of that for a larger
one, and a store with the same rows in this channel gives the same answers. -/
theorem window_is_end_of_listing (db : Database) (channel : String) (before : Option Int64) :
    ∃ rows, db.Lists channel before rows ∧ (∀ rows', db.Lists channel before rows' → rows' = rows) ∧
      (∀ limit, ∃ page, (Call.messages channel limit before).apply db = .ok (page, db) ∧
        page <:+ rows.map (·.1) ∧ page.length = min limit rows.length) ∧
      (∀ limit more, limit ≤ more → db.window channel limit before <:+ db.window channel more before) ∧
      ∀ db' : Database,
        db'.messages.filter (·.channel = channel) = db.messages.filter (·.channel = channel) →
        ∀ limit, db'.window channel limit before = db.window channel limit before := by
  have hLists := db.lists_numberedRecord channel before
  refine ⟨_, hLists, fun rows' h => h.unique hLists, fun limit => ⟨_, rfl, ?_, ?_⟩, ?_, ?_⟩
  · rw [map_fst_numberedRecord, window_eq]
    exact List.drop_suffix _ _
  · rw [window_eq, ← map_fst_numberedRecord, length_rtake, List.length_map]
  · intro limit more hLess
    rw [window_eq, window_eq]
    exact rtake_suffix_rtake _ hLess
  · intro db' hSame limit
    rw [window_eq, window_eq, record_eq_of_filter_eq hSame]

/-- Rows of one time, one from before the epoch that was inserted late, and a row of another channel. -/
theorem window_is_end_of_listing_ties :
    let row (id channel : String) (time : Int64) : MessageRow := ⟨id, channel, "ann", time, 1, [], [], []⟩
    let db : Database := { Database.fresh with messages :=
      [row "a" "ops" 5, row "b" "general" 3, row "c" "ops" 5, row "d" "ops" (-2), row "e" "ops" 5] }
    let alone : Database := { Database.fresh with messages :=
      [row "a" "ops" 5, row "c" "ops" 5, row "d" "ops" (-2), row "e" "ops" 5] }
    db.Lists "ops" none [(row "d" "ops" (-2), 3), (row "a" "ops" 5, 0), (row "c" "ops" 5, 2),
        (row "e" "ops" 5, 4)] ∧
      db.window "ops" 2 none = [row "c" "ops" 5, row "e" "ops" 5] ∧
      db.window "ops" 1 none <:+ db.window "ops" 2 none ∧
      alone.window "ops" 2 none = db.window "ops" 2 none := by
  intro row db alone
  obtain ⟨rows, hLists, hOnly, hPages, hSuffix, hAlone⟩ := window_is_end_of_listing db "ops" none
  have hListed : db.Lists "ops" none [(row "d" "ops" (-2), 3), (row "a" "ops" 5, 0),
      (row "c" "ops" 5, 2), (row "e" "ops" 5, 4)] := by
    refine ⟨fun found place => ?_, by decide⟩
    rcases place with _ | _ | _ | _ | _ | place <;> simp [db, row] <;> grind
  obtain ⟨page, hPage, hEnd, hLength⟩ := hPages 2
  obtain rfl : db.window "ops" 2 none = page := congrArg Prod.fst (Except.ok.inj hPage)
  rw [← hOnly _ hListed] at hEnd hLength
  have hWindow : db.window "ops" 2 none = [row "c" "ops" 5, row "e" "ops" 5] :=
    List.suffix_iff_eq_drop.1 hEnd |>.trans (by rw [hLength]; rfl)
  exact ⟨hListed, hWindow, hSuffix 1 2 (by decide), hAlone alone (by decide) 2⟩

end ChatRelay.Store.Database
