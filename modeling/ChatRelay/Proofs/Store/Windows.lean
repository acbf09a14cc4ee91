import ChatRelay.Store.Query
import Mathlib.Data.List.DropRight
import Mathlib.Data.List.Sort

/-! What a window of messages shows.  `Database.record` is all that a channel holds, by time and, where
times agree, in the order of insertion: one stable sort of the channel's rows, which the rows of other
channels do not enter.  A window is the end of the record (`window_eq`), and a cursor cuts the record off at
its time (`record_some`). -/

namespace ChatRelay.Store.Database

variable {db : Database} {channel : String} {before : Option Int64}

/-- A row is no later than another, by time alone. -/
def timeLe (m n : MessageRow) : Bool :=
  m.timestamp ≤ n.timestamp

/-- The rows of a channel, older than `before` if it is given, by time and in the order of insertion where
times agree. -/
def record (db : Database) (channel : String) (before : Option Int64) : List MessageRow :=
  (db.messages.filter fun m => m.channel = channel ∧ before.all (fun b => m.timestamp < b)).mergeSort
    timeLe

/-! ### The order of numbered rows -/

theorem timeLe_iff {m n : MessageRow} : timeLe m n ↔ m.timestamp.toInt ≤ n.timestamp.toInt := by
  rw [timeLe, decide_eq_true_iff, Int64.le_iff_toInt_le]

theorem notLater_iff {a b : MessageRow × Nat} :
    notLater a b ↔ a.1.timestamp.toInt < b.1.timestamp.toInt ∨
      a.1.timestamp.toInt = b.1.timestamp.toInt ∧ a.2 ≤ b.2 := by
  simp [notLater, Int64.lt_iff_toInt_lt, Int64.toInt_inj]

theorem timeLe_trans (l m n : MessageRow) (hlm : timeLe l m) (hmn : timeLe m n) : timeLe l n := by
  rw [timeLe_iff] at *
  omega

theorem timeLe_total (m n : MessageRow) : timeLe m n || timeLe n m := by
  rw [Bool.or_eq_true, timeLe_iff, timeLe_iff]
  omega

theorem notLater_trans (a b c : MessageRow × Nat) (hab : notLater a b) (hbc : notLater b c) :
    notLater a c := by
  rw [notLater_iff] at *
  omega

theorem notLater_total (a b : MessageRow × Nat) : notLater a b || notLater b a := by
  rw [Bool.or_eq_true, notLater_iff, notLater_iff]
  omega

/-- Rows in one list of numbered rows are told apart by their places. -/
theorem eq_of_notLater {rows : List MessageRow} {a b : MessageRow × Nat} (ha : a ∈ rows.zipIdx)
    (hb : b ∈ rows.zipIdx) (hab : notLater a b) (hba : notLater b a) : a = b := by
  rw [notLater_iff] at hab hba
  have hPlace : a.2 = b.2 := by omega
  have hA := List.mem_zipIdx_iff_getElem?.1 ha
  have hB := List.mem_zipIdx_iff_getElem?.1 hb
  rw [hPlace, hB] at hA
  exact Prod.ext (Option.some.inj hA).symm hPlace

theorem eq_of_perm_of_pairwise {rows : List MessageRow} {l l' : List (MessageRow × Nat)}
    (hRows : ∀ a ∈ l, a ∈ rows.zipIdx) (hPerm : l.Perm l') (h : l.Pairwise (notLater · ·))
    (h' : l'.Pairwise (notLater · ·)) : l = l' :=
  hPerm.eq_of_pairwise (fun _ _ ha hb => eq_of_notLater (hRows _ ha) (hRows _ (hPerm.mem_iff.2 hb))) h h'

/-- Where the places go up, the order by time and place is the stable order by time. -/
theorem mergeSort_notLater_eq {rows : List (MessageRow × Nat)} (h : rows.Pairwise (·.2 < ·.2)) :
    rows.mergeSort notLater = rows.mergeSort fun a b => timeLe a.1 b.1 := by
  have hRows : rows.zipIdx.map (·.1) = rows := List.zipIdx_map_fst 0 rows
  -- A stable sort is a sort by the order with the places in the list on top.
  have hStable : (rows.zipIdx.mergeSort (List.zipIdxLE fun a b => timeLe a.1 b.1)).map (·.1) =
      rows.mergeSort fun a b => timeLe a.1 b.1 := List.mergeSort_zipIdx
  rw [← hStable]
  conv_lhs => rw [← hRows]
  refine (List.map_mergeSort fun a ha b hb => ?_).symm
  obtain ⟨hA, hA'⟩ := List.getElem?_eq_some_iff.1 (List.mem_zipIdx_iff_getElem?.1 ha)
  obtain ⟨hB, hB'⟩ := List.getElem?_eq_some_iff.1 (List.mem_zipIdx_iff_getElem?.1 hb)
  have hUp := List.pairwise_iff_getElem.1 h
  have hPlaces : a.2 ≤ b.2 ↔ a.1.2 ≤ b.1.2 := by
    rw [← hA', ← hB']
    rcases Nat.lt_trichotomy a.2 b.2 with hLt | hEq | hLt
    · have := hUp a.2 b.2 hA hB hLt
      omega
    · simp [hEq]
    · have := hUp b.2 a.2 hB hA hLt
      omega
  rw [Bool.eq_iff_iff, notLater_iff, List.zipIdxLE]
  split
  · rename_i hab
    rw [timeLe_iff] at hab
    split
    · rename_i hba
      rw [timeLe_iff] at hba
      rw [decide_eq_true_iff]
      omega
    · rename_i hba
      rw [timeLe_iff] at hba
      simp only [true_iff]
      omega
  · rename_i hab
    rw [timeLe_iff] at hab
    simp only [Bool.false_eq_true, false_iff]
    omega

/-! ### The record, numbered -/

/-- The record of a channel, each row with its place in the order of insertion. -/
def numberedRecord (db : Database) (channel : String) (before : Option Int64) :
    List (MessageRow × Nat) :=
  (db.numbered channel before).mergeSort notLater

theorem pairwise_numberedRecord (db : Database) (channel : String) (before : Option Int64) :
    (db.numberedRecord channel before).Pairwise (notLater · ·) :=
  List.pairwise_mergeSort notLater_trans notLater_total _

theorem mem_zipIdx_of_mem_numberedRecord {a : MessageRow × Nat}
    (h : a ∈ db.numberedRecord channel before) : a ∈ db.messages.zipIdx :=
  (List.mem_filter.1 ((List.mergeSort_perm _ _).mem_iff.1 h)).1

theorem pairwise_numbered (db : Database) (channel : String) (before : Option Int64) :
    (db.numbered channel before).Pairwise (·.2 < ·.2) := by
  refine List.Pairwise.filter _ (List.pairwise_iff_getElem.2 fun i j hi hj hij => ?_)
  rw [List.getElem_zipIdx, List.getElem_zipIdx]
  omega

theorem mem_numbered {row : MessageRow} {place : Nat} :
    (row, place) ∈ db.numbered channel before ↔
      db.messages[place]? = some row ∧ row.channel = channel ∧ ∀ b ∈ before, row.timestamp < b := by
  rw [numbered, List.mem_filter, List.mem_zipIdx_iff_getElem?, decide_eq_true_iff, Option.all_eq_true]
  simp only [decide_eq_true_iff, Option.mem_def]

theorem nodup_numberedRecord (db : Database) (channel : String) (before : Option Int64) :
    (db.numberedRecord channel before).Nodup := by
  refine (List.mergeSort_perm _ _).symm.nodup ?_
  refine (pairwise_numbered db channel before).imp fun hPlaces hSame => ?_
  rw [hSame] at hPlaces
  exact Nat.lt_irrefl _ hPlaces

theorem map_fst_numbered (db : Database) (channel : String) (before : Option Int64) :
    (db.numbered channel before).map (·.1) =
      db.messages.filter fun m => m.channel = channel ∧ before.all (fun b => m.timestamp < b) := by
  have hRows : db.messages.zipIdx.map (·.1) = db.messages := List.zipIdx_map_fst 0 _
  conv_rhs => rw [← hRows, List.filter_map]
  rfl

theorem map_fst_numberedRecord (db : Database) (channel : String) (before : Option Int64) :
    (db.numberedRecord channel before).map (·.1) = db.record channel before := by
  rw [numberedRecord, mergeSort_notLater_eq (pairwise_numbered db channel before),
    List.map_mergeSort (s := timeLe) fun _ _ _ _ => rfl, map_fst_numbered]
  rfl

/-! ### Windows -/

theorem rtake_map {α β : Type} (f : α → β) (l : List α) (n : Nat) :
    (l.rtake n).map f = (l.map f).rtake n := by
  simp only [List.rtake, List.map_drop, List.length_map]

theorem length_rtake {α : Type} (l : List α) (n : Nat) : (l.rtake n).length = min n l.length := by
  rw [List.rtake, List.length_drop]
  omega

theorem mergeSort_newest_eq (db : Database) (channel : String) (before : Option Int64) :
    ((db.numbered channel before).mergeSort fun a b => notLater b a) =
      (db.numberedRecord channel before).reverse := by
  have hPerm : ((db.numbered channel before).mergeSort fun a b => notLater b a).reverse.Perm
      (db.numberedRecord channel before) :=
    (List.reverse_perm _).trans ((List.mergeSort_perm _ _).trans (List.mergeSort_perm _ _).symm)
  have hDown : ((db.numbered channel before).mergeSort fun a b => notLater b a).Pairwise
      fun a b => notLater b a :=
    List.pairwise_mergeSort (fun a b c hab hbc => notLater_trans c b a hbc hab)
      (fun a b => notLater_total b a) _
  rw [← List.reverse_eq_iff]
  exact eq_of_perm_of_pairwise (fun a ha => mem_zipIdx_of_mem_numberedRecord (hPerm.mem_iff.1 ha)) hPerm
    (List.pairwise_reverse.2 hDown) (pairwise_numberedRecord db channel before)

/-- A window is the end of the record. -/
theorem window_eq (db : Database) (channel : String) (limit : Nat) (before : Option Int64) :
    db.window channel limit before = (db.record channel before).rtake limit := by
  have hEnd : ((db.numberedRecord channel before).rtake limit).Sublist
      (db.numberedRecord channel before) := List.drop_sublist _ _
  have hPerm : (((db.numberedRecord channel before).reverse.take limit).mergeSort notLater).Perm
      ((db.numberedRecord channel before).rtake limit) := by
    refine (List.mergeSort_perm _ _).trans ?_
    rw [List.take_reverse]
    exact List.reverse_perm _
  have hSorted : ((db.numberedRecord channel before).reverse.take limit).mergeSort notLater =
      (db.numberedRecord channel before).rtake limit :=
    eq_of_perm_of_pairwise
      (fun a ha => mem_zipIdx_of_mem_numberedRecord (hEnd.mem (hPerm.mem_iff.1 ha))) hPerm
      (List.pairwise_mergeSort notLater_trans notLater_total _)
      ((pairwise_numberedRecord db channel before).sublist hEnd)
  calc db.window channel limit before
      = (((db.numberedRecord channel before).reverse.take limit).mergeSort notLater).map (·.1) := by
        rw [window, mergeSort_newest_eq]
    _ = (db.record channel before).rtake limit := by rw [hSorted, rtake_map, map_fst_numberedRecord]

/-! ### The record -/

theorem pairwise_record (db : Database) (channel : String) (before : Option Int64) :
    (db.record channel before).Pairwise (timeLe · ·) :=
  List.pairwise_mergeSort timeLe_trans timeLe_total _

theorem mem_record {m : MessageRow} :
    m ∈ db.record channel before ↔
      m ∈ db.messages ∧ m.channel = channel ∧ ∀ b ∈ before, m.timestamp < b := by
  rw [record, (List.mergeSort_perm _ _).mem_iff, List.mem_filter]
  cases before <;> simp

theorem record_some (db : Database) (channel : String) (time : Int64) :
    db.record channel (some time) = (db.record channel none).filter (·.timestamp < time) := by
  have hNumbered : db.numbered channel (some time) =
      (db.numbered channel none).filter (·.1.timestamp < time) := by
    rw [numbered, numbered, List.filter_filter]
    refine List.filter_congr fun a _ => ?_
    rw [Bool.eq_iff_iff]
    simp [and_comm]
  have hPerm : ((db.numberedRecord channel none).filter (·.1.timestamp < time)).Perm
      (db.numberedRecord channel (some time)) := by
    rw [numberedRecord, numberedRecord, hNumbered]
    exact ((List.mergeSort_perm _ _).filter _).trans (List.mergeSort_perm _ _).symm
  have hSorted : (db.numberedRecord channel none).filter (·.1.timestamp < time) =
      db.numberedRecord channel (some time) :=
    eq_of_perm_of_pairwise
      (fun a ha => mem_zipIdx_of_mem_numberedRecord (List.mem_filter.1 ha).1) hPerm
      ((pairwise_numberedRecord db channel none).filter _) (pairwise_numberedRecord db channel _)
  rw [← map_fst_numberedRecord, ← map_fst_numberedRecord, ← hSorted, List.filter_map]
  rfl

end ChatRelay.Store.Database
