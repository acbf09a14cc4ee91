import ChatRelay.Frame
import ChatRelay.Proofs.RoundTrip.Json
import Mathlib.Data.List.Nodup

/-! Values of the wire types read back from their text.  A type is lawful if its JSON form spells its
numbers as numbers and is read as the value it was written for.  Then `decode?_encode` says so of the
text.  A frame is lawful, so that no message is read as an error and no error as a message. -/

namespace ChatRelay

open Json (NumbersSpelled isNumber_toString memberTokens)

/-! ### Entries by name -/

/-- Where no name stands twice, the value that is found under a name is the one that stands with it. -/
theorem lookup_eq_some_iff_mem {α : Type} {entries : List (String × α)}
    (hDistinct : (entries.map (·.1)).Nodup) {name : String} {a : α} :
    entries.lookup name = some a ↔ (name, a) ∈ entries := by
  induction entries with
  | nil => simp
  | cons entry entries ih =>
    obtain ⟨key, b⟩ := entry
    obtain ⟨hNew, hDistinct⟩ := List.nodup_cons.1 hDistinct
    rw [List.lookup_cons, List.mem_cons]
    by_cases hKey : name = key
    · subst hKey
      have hOnce : (name, a) ∉ entries := fun hMem => hNew (List.mem_map.2 ⟨_, hMem, rfl⟩)
      simp [hOnce, eq_comm]
    · have hBeq : (name == key) = false := by simpa using hKey
      simp [hBeq, hKey, ih hDistinct]

/-! ### Numbers in values -/

namespace Json

theorem numbersSpelled_ofString (s : String) : NumbersSpelled (ofString s).tokens := by
  intro literal h
  simp [ofString, tokens] at h

theorem numbersSpelled_ofInt (n : Int) : NumbersSpelled (ofInt n).tokens := by
  intro literal h
  obtain rfl : literal = (toString n).toList := by simpa [ofInt, tokens] using h
  exact isNumber_toString n

theorem numbersSpelled_memberTokens {members : List Member}
    (h : ∀ m ∈ members, NumbersSpelled m.2.tokens) : NumbersSpelled (memberTokens members) := by
  intro literal hl
  obtain ⟨m, hm, hKey | hColon | hValue⟩ := (mem_memberTokens_iff (by simp)).1 hl
  · simp at hKey
  · simp at hColon
  · exact h m hm literal hValue

theorem numbersSpelled_ofMembers {members : List (String × Json)}
    (h : ∀ m ∈ members, NumbersSpelled m.2.tokens) : NumbersSpelled (ofMembers members).tokens := by
  intro literal hl
  rw [ofMembers, tokens] at hl
  refine numbersSpelled_memberTokens (fun m hm => ?_) literal (by simpa using hl)
  obtain ⟨n, hn, rfl⟩ := List.mem_map.1 hm
  exact h n hn

/-! ### Fields of records -/

theorem Shape.collect?_append (s : Shape) {members : List (String × Json)} (seen : Fields)
    (hNames : ∀ m ∈ members, m.1 ∈ s.names)
    (hDistinct : (members.map (·.1) ++ seen.map (·.1)).Nodup) :
    s.collect? seen (members.map fun (key, j) => (.unicode key, j)) =
      some (members.reverse ++ seen) := by
  induction members generalizing seen with
  | nil => rfl
  | cons m members ih =>
    obtain ⟨key, j⟩ := m
    have hKey : key ∈ s.names := hNames (key, j) List.mem_cons_self
    have hFresh : (seen.lookup key).isSome = false := by
      rw [Option.isSome_eq_false_iff, Option.isNone_iff_eq_none, List.lookup_eq_none_iff]
      intro m hm
      have hNotSeen := (List.nodup_cons.1 hDistinct).1
      exact bne_iff_ne.2 fun hEq => hNotSeen
        (List.mem_append_right _ (List.mem_map.2 ⟨m, hm, hEq.symm⟩))
    rw [List.map_cons, Shape.collect?, if_pos hKey, hFresh]
    simp only [Bool.false_eq_true, if_false]
    rw [ih ((key, j) :: seen) (fun m hm => hNames m (List.mem_cons_of_mem _ hm))
      (List.nodup_middle.2 hDistinct), List.reverse_cons, List.append_assoc, List.singleton_append]

/-- A record reads back the fields that it was written with, last first. -/
theorem Shape.fields?_ofMembers (s : Shape) (members : List (String × Json))
    (hNames : ∀ m ∈ members, m.1 ∈ s.names) (hDistinct : (members.map (·.1)).Nodup) :
    s.fields? (ofMembers members) = some members.reverse := by
  have hCollect := s.collect?_append [] hNames (by simpa using hDistinct)
  rw [List.append_nil] at hCollect
  exact hCollect

theorem Shape.fields?_ofMembers_eq_nil (names : List String) (positional : Nat)
    (members : List (String × Json)) (h : ∀ m ∈ members, m.1 ∉ names) :
    Shape.fields? ⟨names, positional, false⟩ (ofMembers members) = some [] := by
  have hCollect : ∀ seen : Fields, Shape.collect? ⟨names, positional, false⟩ seen
      (members.map fun (key, j) => (.unicode key, j)) = some seen := by
    intro seen
    induction members with
    | nil => rfl
    | cons m members ih =>
      rw [List.map_cons, Shape.collect?, if_neg (h m List.mem_cons_self), if_neg (by simp)]
      exact ih fun m hm => h m (List.mem_cons_of_mem _ hm)
  exact hCollect []

end Json

/-! ### Lawful types -/

/-- A type whose JSON form can be spelled, and is read as the value that it was written for. -/
class LawfulWire (α : Type) [Wire α] : Prop where
  numbersSpelled : ∀ a : α, NumbersSpelled (Wire.toJson a).tokens
  ofJson?_toJson : ∀ a : α, Wire.ofJson? (Wire.toJson a) = some a

namespace Wire

theorem decode?_encode {α : Type} [Wire α] [LawfulWire α] (a : α) :
    decode? (Text.Utf8.bytes (encode a)) = some a := by
  rw [decode?, encode, Json.parse?_render (LawfulWire.numbersSpelled a)]
  exact LawfulWire.ofJson?_toJson a

end Wire

/-! ### Fields of messages -/

theorem Json.natural?_ofInt {bound n : Nat} (h : n ≤ bound) : natural? bound (ofInt n) = some n := by
  rw [ofInt, natural?, Text.Numeral.toList_toString_of_nonneg (by omega), Int.toNat_natCast,
    Text.Numeral.natural_toDigits h]
  rfl

theorem Json.int64?_ofInt (n : Int64) : int64? (ofInt n.toInt) = some n := by
  have hSigned : (toString n.toInt).toList ≠ ['-', '0'] := by
    intro hEq
    by_cases hSign : 0 ≤ n.toInt
    · obtain ⟨c, cs, hCons, hDigit⟩ := Text.Numeral.toDigits_eq_cons n.toInt.toNat
      rw [Text.Numeral.toList_toString_of_nonneg hSign, hCons, List.cons.injEq] at hEq
      rw [hEq.1] at hDigit
      simp at hDigit
    · have hHead := Text.Numeral.head?_toDigits_ne (n := (-n.toInt).toNat) (by omega)
      rw [Text.Numeral.toList_toString_of_neg (by omega), List.cons.injEq] at hEq
      rw [hEq.2] at hHead
      simp at hHead
  rw [ofInt, int64?, if_neg hSigned, Text.Numeral.int64_toString]
  rfl

theorem Json.text?_ofString (s : String) : text? (ofString s) = some s := rfl

theorem Json.nullable_ofString (s : String) : nullable text? (ofString s) = some (some s) := rfl

theorem Json.uuid?_ofString (u : Uuid) : uuid? (ofString u.toString) = some u := by
  rw [uuid?, text?_ofString, Option.bind_eq_bind, Option.bind_some, Uuid.ofString?_toString]

theorem Payload.ofJson?_toJson (p : Payload) : Payload.ofJson? p.toJson = some p :=
  Text.Base64.decode?_encode .standard p

instance : LawfulWire MessageKind where
  numbersSpelled k := Json.numbersSpelled_ofInt k.code
  ofJson?_toJson k := by
    change Json.natural? 255 (Json.ofInt k.code) >>= MessageKind.ofCode? = some k
    rw [Json.natural?_ofInt (by cases k <;> decide)]
    exact MessageKind.ofCode?_code k

/-- The members of a message's JSON form. -/
def Message.members (m : Message) : List (String × Json) :=
  [("id", .ofString m.id.toString), ("channel_id", .ofString m.channel),
    ("sender_id", .ofString m.sender), ("timestamp", .ofInt m.timestamp.toInt),
    ("type", Wire.toJson m.kind), ("content", m.content.toJson), ("nonce", m.nonce.toJson),
    ("signature", m.signature.toJson)]

theorem Message.toJson_eq (m : Message) : Wire.toJson m = Json.ofMembers m.members := rfl

instance : LawfulWire Message where
  numbersSpelled m := by
    refine Json.numbersSpelled_ofMembers fun member h => ?_
    simp only [List.mem_cons, List.not_mem_nil, or_false] at h
    rcases h with rfl | rfl | rfl | rfl | rfl | rfl | rfl | rfl
    · exact Json.numbersSpelled_ofString _
    · exact Json.numbersSpelled_ofString _
    · exact Json.numbersSpelled_ofString _
    · exact Json.numbersSpelled_ofInt _
    · exact LawfulWire.numbersSpelled m.kind
    · exact Json.numbersSpelled_ofString _
    · exact Json.numbersSpelled_ofString _
    · exact Json.numbersSpelled_ofString _
  ofJson?_toJson m := by
    have hFields := Json.Shape.fields?_ofMembers ⟨["id", "channel_id", "sender_id", "timestamp", "type",
      "content", "nonce", "signature"], 5, false⟩ m.members (by simp [Message.members])
      (by simp [Message.members])
    rw [Message.toJson_eq]
    simp only [Wire.ofJson?]
    rw [hFields]
    have hKind : (Json.natural? 255 (Wire.toJson m.kind)).bind MessageKind.ofCode? = some m.kind :=
      LawfulWire.ofJson?_toJson m.kind
    simp [Message.members, Json.Fields.required, Json.Fields.withDefault, List.lookup_cons,
      Json.uuid?_ofString, Json.text?_ofString, Json.int64?_ofInt, Payload.ofJson?_toJson, hKind]

/-! ### Frames -/

instance : LawfulWire ErrorCode where
  numbersSpelled c := Json.numbersSpelled_ofString c.word
  ofJson?_toJson c := ErrorCode.ofWord?_word c

instance : LawfulWire ErrorDetail where
  numbersSpelled d := by
    obtain ⟨code, channel⟩ := d
    refine Json.numbersSpelled_ofMembers fun member h => ?_
    cases channel with
    | none =>
      obtain rfl := List.mem_singleton.1 h
      exact LawfulWire.numbersSpelled code
    | some channel =>
      rcases List.mem_cons.1 h with rfl | h
      · exact LawfulWire.numbersSpelled code
      · obtain rfl := List.mem_singleton.1 h
        exact Json.numbersSpelled_ofString channel
  ofJson?_toJson d := by
    obtain ⟨code, channel⟩ := d
    have hCode : Wire.ofJson? (Wire.toJson code) = some code := LawfulWire.ofJson?_toJson code
    cases channel with
    | none =>
      have hFields := Json.Shape.fields?_ofMembers ⟨["code", "channel_id"], 1, false⟩
        [("code", Wire.toJson code)] (by simp) (by simp)
      simp only [Wire.ofJson?, Wire.toJson] at hFields hCode ⊢
      rw [hFields]
      simp [Json.Fields.required, Json.Fields.withDefault, List.lookup_cons, hCode]
    | some channel =>
      have hFields := Json.Shape.fields?_ofMembers ⟨["code", "channel_id"], 1, false⟩
        [("code", Wire.toJson code), ("channel_id", .ofString channel)] (by simp) (by simp)
      simp only [Wire.ofJson?, Wire.toJson] at hFields hCode ⊢
      rw [hFields]
      simp [Json.Fields.required, Json.Fields.withDefault, List.lookup_cons, hCode,
        Json.nullable_ofString]

instance : LawfulWire ErrorFrame where
  numbersSpelled f := by
    refine Json.numbersSpelled_ofMembers fun member h => ?_
    obtain rfl := List.mem_singleton.1 h
    exact LawfulWire.numbersSpelled f.error
  ofJson?_toJson f := by
    have hError : Wire.ofJson? (Wire.toJson f.error) = some f.error := LawfulWire.ofJson?_toJson f.error
    have hFields := Json.Shape.fields?_ofMembers ⟨["error"], 1, false⟩
      [("error", Wire.toJson f.error)] (by simp) (by simp)
    change (do
      let fields ← Json.Shape.fields? ⟨["error"], 1, false⟩
        (Json.ofMembers [("error", Wire.toJson f.error)])
      let error ← fields.required "error" Wire.ofJson?
      return ErrorFrame.mk error) = some f
    rw [hFields]
    simp [Json.Fields.required, hError]

namespace Json

theorem keepInTurn_of_kept {ks : List Keeping} (h : ∀ k ∈ ks, k = .kept) : keepInTurn ks = .kept := by
  induction ks with
  | nil => rfl
  | cons k ks ih =>
    obtain rfl := h k List.mem_cons_self
    cases ks with
    | nil => rfl
    | cons k ks => exact ih fun k hk => h k (List.mem_cons_of_mem _ hk)

theorem keep_ofMembers {depth : Nat} {members : List (String × Json)}
    (h : ∀ m ∈ members, keep depth m.2 = .kept) : keep (depth + 1) (ofMembers members) = .kept := by
  rw [ofMembers, keep]
  refine keepInTurn_of_kept fun k hk => ?_
  obtain ⟨m, hm, rfl⟩ := List.mem_map.1 hk
  obtain ⟨n, hn, rfl⟩ := List.mem_map.1 hm
  exact (if_pos rfl).trans (h n hn)

@[simp] theorem keep_ofString (depth : Nat) (s : String) : keep depth (ofString s) = .kept := by
  cases depth <;> rfl

end Json

theorem Message.isKept (m : Message) : (Wire.toJson m).isKept := by
  have hTime := Json.int64?_ofInt m.timestamp
  have hKind : Json.keep 126 (Wire.toJson m.kind) = .kept := by
    cases m.kind <;> rfl
  refine decide_eq_true (Json.keep_ofMembers fun member h => ?_)
  simp only [List.mem_cons, List.not_mem_nil, or_false] at h
  rcases h with rfl | rfl | rfl | rfl | rfl | rfl | rfl | rfl
  · exact Json.keep_ofString _ _
  · exact Json.keep_ofString _ _
  · exact Json.keep_ofString _ _
  · rw [Json.ofInt] at hTime ⊢
    exact if_pos (by rw [hTime]; rfl)
  · exact hKind
  · exact Json.keep_ofString _ _
  · exact Json.keep_ofString _ _
  · exact Json.keep_ofString _ _

theorem ErrorFrame.isKept (f : ErrorFrame) : (Wire.toJson f).isKept := by
  obtain ⟨code, channel⟩ := f
  refine decide_eq_true (Json.keep_ofMembers fun member h => ?_)
  obtain rfl := List.mem_singleton.1 h
  refine Json.keep_ofMembers fun member h => ?_
  cases channel with
  | none =>
    obtain rfl := List.mem_singleton.1 h
    exact Json.keep_ofString _ _
  | some channel =>
    rcases List.mem_cons.1 h with rfl | h
    · exact Json.keep_ofString _ _
    · obtain rfl := List.mem_singleton.1 h
      exact Json.keep_ofString _ _

theorem Message.error_ofJson?_toJson (m : Message) :
    (Wire.ofJson? (Wire.toJson m) : Option ErrorFrame) = none := by
  have hFields := Json.Shape.fields?_ofMembers_eq_nil ["error"] 1 m.members (by simp [Message.members])
  change (do
    let fields ← Json.Shape.fields? ⟨["error"], 1, false⟩ (Json.ofMembers m.members)
    let error ← fields.required "error" Wire.ofJson?
    return ErrorFrame.mk error) = none
  rw [hFields]
  rfl

theorem ServerFrame.toJson_error (f : ErrorFrame) :
    Wire.toJson (ServerFrame.error f) = Wire.toJson f := rfl

theorem ServerFrame.toJson_message (m : Message) :
    Wire.toJson (ServerFrame.message m) = Wire.toJson m := rfl

instance : LawfulWire ServerFrame where
  numbersSpelled
    | .error f => LawfulWire.numbersSpelled f
    | .message m => LawfulWire.numbersSpelled m
  ofJson?_toJson
    | .error f => by
      have hRead : Wire.ofJson? (Wire.toJson f) = some f := LawfulWire.ofJson?_toJson f
      rw [ServerFrame.toJson_error]
      change (if (Wire.toJson f).isKept then _ else _) = _
      rw [if_pos f.isKept, hRead]
    | .message m => by
      have hRead : Wire.ofJson? (Wire.toJson m) = some m := LawfulWire.ofJson?_toJson m
      rw [ServerFrame.toJson_message]
      change (if (Wire.toJson m).isKept then _ else _) = _
      rw [if_pos m.isKept, m.error_ofJson?_toJson, hRead]
      rfl

/-! ### Frames as clients read them -/

/-- The message that a frame is read as, if it is one. -/
def Frame.message? (text : Frame) : Option Message :=
  match (Wire.decode? (Text.Utf8.bytes text) : Option ServerFrame) with
  | some (.message m) => some m
  | _ => none

@[simp] theorem Frame.message?_encode_message (m : Message) :
    Frame.message? (Wire.encode (ServerFrame.message m)) = some m := by
  rw [Frame.message?, Wire.decode?_encode]

@[simp] theorem Frame.message?_encode_error (f : ErrorFrame) :
    Frame.message? (Wire.encode (ServerFrame.error f)) = none := by
  rw [Frame.message?, Wire.decode?_encode]

end ChatRelay
