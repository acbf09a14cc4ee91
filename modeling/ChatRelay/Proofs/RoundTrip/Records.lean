import ChatRelay.Proofs.RoundTrip.Wire
import ChatRelay.Reply
import ChatRelay.Request
import ChatRelay.Token.Claims

/-! Every record of the wire reads back: requests, replies, the lists that replies hold, and the claims of
a token.  With messages and frames these are all that the relay writes or reads, so what one side encodes
the other decodes to the same value: `wire_reads_back`. -/

namespace ChatRelay

open Json (NumbersSpelled numbersSpelled_ofString numbersSpelled_ofInt numbersSpelled_ofMembers
  itemTokens)

/-! ### Lists -/

namespace Json

theorem numbersSpelled_itemTokens {items : List Json} (h : ∀ j ∈ items, NumbersSpelled j.tokens) :
    NumbersSpelled (itemTokens items) := by
  intro literal hl
  obtain ⟨j, hj, hItem⟩ := (mem_itemTokens_iff (by simp)).1 hl
  exact h j hj literal hItem

theorem numbersSpelled_array {items : List Json} (h : ∀ j ∈ items, NumbersSpelled j.tokens) :
    NumbersSpelled (array items).tokens := by
  intro literal hl
  rw [tokens] at hl
  exact numbersSpelled_itemTokens h literal (by simpa using hl)

theorem numbersSpelled_bool (value : Bool) : NumbersSpelled (bool value).tokens := by
  intro literal hl
  simp [tokens] at hl

end Json

variable {α : Type} [Wire α]

theorem Wire.mapM_ofJson?_toJson [LawfulWire α] (items : List α) :
    (items.map toJson).mapM (ofJson? (α := α)) = some items := by
  induction items with
  | nil => rfl
  | cons a items ih =>
    rw [List.map_cons, List.mapM_cons, LawfulWire.ofJson?_toJson, ih]
    rfl

instance [LawfulWire α] : LawfulWire (List α) where
  numbersSpelled items := by
    refine Json.numbersSpelled_array fun j hj => ?_
    obtain ⟨a, -, rfl⟩ := List.mem_map.1 hj
    exact LawfulWire.numbersSpelled a
  ofJson?_toJson items := Wire.mapM_ofJson?_toJson items

/-! ### Records of one field -/

namespace Json

theorem numbersSpelled_single (name : String) {j : Json} (h : NumbersSpelled j.tokens) :
    NumbersSpelled (ofMembers [(name, j)]).tokens := by
  refine numbersSpelled_ofMembers fun member hMember => ?_
  obtain rfl := List.mem_singleton.1 hMember
  exact h

/-- A record of one field is read as the value that the field is read as. -/
theorem read_single {β γ : Type} (name : String) (positional : Nat) (closed : Bool) (make : β → γ)
    {j : Json} {read? : Json → Option β} {b : β} (h : read? j = some b) :
    (do
      let fields ← Shape.fields? ⟨[name], positional, closed⟩ (ofMembers [(name, j)])
      let b ← fields.required name read?
      return make b) = some (make b) := by
  rw [Shape.fields?_ofMembers _ _ (by simp) (by simp)]
  simp [Fields.required, h]

end Json

instance : LawfulWire DirectRequest where
  numbersSpelled r := Json.numbersSpelled_single _ (numbersSpelled_ofString r.target)
  ofJson?_toJson r := Json.read_single _ 1 true DirectRequest.mk (Json.text?_ofString r.target)

instance : LawfulWire DirectReply where
  numbersSpelled r := Json.numbersSpelled_single _ (numbersSpelled_ofString r.channel)
  ofJson?_toJson r := Json.read_single _ 1 false DirectReply.mk (Json.text?_ofString r.channel)

instance : LawfulWire Refusal where
  numbersSpelled r := Json.numbersSpelled_single _ (numbersSpelled_ofString r.error)
  ofJson?_toJson r := Json.read_single _ 1 false Refusal.mk (Json.text?_ofString r.error)

/-! ### Channels and their members -/

instance : LawfulWire ChannelKind where
  numbersSpelled k := numbersSpelled_ofString k.word
  ofJson?_toJson k := ChannelKind.ofWord?_word k

instance : LawfulWire Channel where
  numbersSpelled c := by
    refine numbersSpelled_ofMembers fun member h => ?_
    simp only [List.mem_cons, List.not_mem_nil, or_false] at h
    rcases h with rfl | rfl | rfl
    · exact numbersSpelled_ofString _
    · exact numbersSpelled_ofString _
    · exact LawfulWire.numbersSpelled c.kind
  ofJson?_toJson c := by
    have hKind : Wire.ofJson? (Wire.toJson c.kind) = some c.kind := LawfulWire.ofJson?_toJson c.kind
    have hFields := Json.Shape.fields?_ofMembers ⟨["id", "name", "type"], 3, false⟩
      [("id", .ofString c.id), ("name", .ofString c.name), ("type", Wire.toJson c.kind)]
      (by simp) (by simp)
    simp only [Wire.ofJson?, Wire.toJson] at hFields hKind ⊢
    rw [hFields]
    simp [Json.Fields.required, List.lookup_cons, Json.text?_ofString, hKind]

instance : LawfulWire ChannelMember where
  numbersSpelled m := by
    refine numbersSpelled_ofMembers fun member h => ?_
    simp only [List.mem_cons, List.not_mem_nil, or_false] at h
    rcases h with rfl | rfl | rfl
    · exact numbersSpelled_ofString _
    · exact numbersSpelled_ofString _
    · exact numbersSpelled_ofString _
  ofJson?_toJson m := by
    have hFields := Json.Shape.fields?_ofMembers ⟨["id", "username", "full_name"], 3, false⟩
      [("id", .ofString m.id), ("username", .ofString m.username), ("full_name", .ofString m.fullName)]
      (by simp) (by simp)
    simp only [Wire.ofJson?, Wire.toJson]
    rw [hFields]
    simp [Json.Fields.required, List.lookup_cons, Json.text?_ofString]

instance : LawfulWire ChannelList where
  numbersSpelled r := Json.numbersSpelled_single _ (LawfulWire.numbersSpelled r.channels)
  ofJson?_toJson r :=
    Json.read_single _ 1 false ChannelList.mk (LawfulWire.ofJson?_toJson r.channels)

instance : LawfulWire MemberList where
  numbersSpelled r := Json.numbersSpelled_single _ (LawfulWire.numbersSpelled r.members)
  ofJson?_toJson r := Json.read_single _ 1 false MemberList.mk (LawfulWire.ofJson?_toJson r.members)

/-! ### Sending -/

instance : LawfulWire SendRequest where
  numbersSpelled r := by
    refine numbersSpelled_ofMembers fun member h => ?_
    simp only [List.mem_cons, List.not_mem_nil, or_false] at h
    rcases h with rfl | rfl | rfl | rfl | rfl
    · exact numbersSpelled_ofString _
    · exact numbersSpelled_ofString _
    · exact numbersSpelled_ofString _
    · exact numbersSpelled_ofString _
    · exact LawfulWire.numbersSpelled r.kind
  ofJson?_toJson r := by
    have hKind : (Json.natural? 255 (Wire.toJson r.kind)).bind MessageKind.ofCode? = some r.kind :=
      LawfulWire.ofJson?_toJson r.kind
    have hFields := Json.Shape.fields?_ofMembers
      ⟨["channel_id", "content", "nonce", "signature", "type"], 5, true⟩
      [("channel_id", .ofString r.destination), ("content", r.content.toJson),
        ("nonce", r.nonce.toJson), ("signature", r.signature.toJson), ("type", Wire.toJson r.kind)]
      (by simp) (by simp)
    simp only [Wire.ofJson?, Wire.toJson] at hFields hKind ⊢
    rw [hFields]
    simp [Json.Fields.required, Json.Fields.withDefault, List.lookup_cons, Json.text?_ofString,
      Payload.ofJson?_toJson, hKind]

instance : LawfulWire SendReply where
  numbersSpelled r := by
    refine numbersSpelled_ofMembers fun member h => ?_
    simp only [List.mem_cons, List.not_mem_nil, or_false] at h
    rcases h with rfl | rfl
    · exact numbersSpelled_ofString _
    · exact Json.numbersSpelled_bool _
  ofJson?_toJson r := by
    have hFields := Json.Shape.fields?_ofMembers ⟨["message_id", "success"], 2, false⟩
      [("message_id", .ofString r.message), ("success", .bool r.success)] (by simp) (by simp)
    simp only [Wire.ofJson?, Wire.toJson]
    rw [hFields]
    simp [Json.Fields.required, List.lookup_cons, Json.text?_ofString, Json.bool?]

/-! ### Claims -/

theorem Json.natural?_ofInt_toNat (n : UInt64) :
    natural? 18446744073709551615 (ofInt n.toNat) = some n.toNat := by
  have hLt := n.toNat_lt
  exact natural?_ofInt (by omega)

instance : LawfulWire Claims where
  numbersSpelled c := by
    obtain ⟨username, role, expiry⟩ := c
    refine numbersSpelled_ofMembers fun member h => ?_
    cases role with
    | none =>
      simp only [List.cons_append, List.nil_append, List.mem_cons, List.not_mem_nil, or_false] at h
      rcases h with rfl | rfl
      · exact numbersSpelled_ofString _
      · exact numbersSpelled_ofInt _
    | some role =>
      simp only [List.cons_append, List.nil_append, List.mem_cons, List.not_mem_nil, or_false] at h
      rcases h with rfl | rfl | rfl
      · exact numbersSpelled_ofString _
      · exact numbersSpelled_ofString _
      · exact numbersSpelled_ofInt _
  ofJson?_toJson c := by
    obtain ⟨username, role, expiry⟩ := c
    cases role with
    | none =>
      have hFields := Json.Shape.fields?_ofMembers ⟨["username", "role", "exp"], 3, false⟩
        [("username", .ofString username), ("exp", .ofInt expiry.toNat)] (by simp) (by simp)
      simp only [Wire.ofJson?, Wire.toJson, List.cons_append, List.nil_append]
      rw [hFields]
      simp [Json.Fields.required, Json.Fields.withDefault, List.lookup_cons, Json.text?_ofString,
        Json.natural?_ofInt_toNat]
    | some role =>
      have hFields := Json.Shape.fields?_ofMembers ⟨["username", "role", "exp"], 3, false⟩
        [("username", .ofString username), ("role", .ofString role), ("exp", .ofInt expiry.toNat)]
        (by simp) (by simp)
      simp only [Wire.ofJson?, Wire.toJson, List.cons_append, List.nil_append]
      rw [hFields]
      simp [Json.Fields.required, Json.Fields.withDefault, List.lookup_cons, Json.text?_ofString,
        Json.nullable_ofString, Json.natural?_ofInt_toNat]

/-! ### Frames as messages and errors -/

theorem ErrorFrame.message_ofJson?_toJson (f : ErrorFrame) :
    (Wire.ofJson? (Wire.toJson f) : Option Message) = none := by
  have hFields := Json.Shape.fields?_ofMembers_eq_nil ["id", "channel_id", "sender_id", "timestamp",
    "type", "content", "nonce", "signature"] 5 [("error", Wire.toJson f.error)] (by simp)
  simp only [Wire.ofJson?]
  change (Json.Shape.fields? _ (Json.ofMembers [("error", Wire.toJson f.error)])).bind _ = none
  rw [hFields]
  rfl

theorem ServerFrame.encode_message (m : Message) :
    Wire.encode (ServerFrame.message m) = Wire.encode m := rfl

theorem ServerFrame.encode_error (f : ErrorFrame) : Wire.encode (ServerFrame.error f) = Wire.encode f :=
  rfl

theorem Wire.decode?_encode_of_none {α β : Type} [Wire α] [LawfulWire α] [Wire β] {a : α}
    (h : (ofJson? (toJson a) : Option β) = none) :
    (decode? (Text.Utf8.bytes (encode a)) : Option β) = none := by
  rw [decode?, encode, Json.parse?_render (LawfulWire.numbersSpelled a)]
  exact h

/-! ### All that is written -/

/-- Every value of the type is decoded from the text that it is encoded as. -/
def ReadsBack (α : Type) [Wire α] : Prop :=
  ∀ a : α, Wire.decode? (Text.Utf8.bytes (Wire.encode a)) = some a

/-- Whatever the relay and its clients write reads back as the value that was written, in every type of
the wire.  A frame reads back as the kind of frame that it is: the text of a message is also that of the
bare message and of no error, and the text of an error is that of no message. -/
theorem wire_reads_back :
    ReadsBack SendRequest ∧ ReadsBack Message ∧ ReadsBack ServerFrame ∧ ReadsBack ErrorFrame ∧
      ReadsBack ErrorDetail ∧ ReadsBack Channel ∧ ReadsBack ChannelMember ∧ ReadsBack Claims ∧
      ReadsBack ChannelList ∧ ReadsBack MemberList ∧ ReadsBack DirectRequest ∧ ReadsBack DirectReply ∧
      ReadsBack SendReply ∧ ReadsBack Refusal ∧
      (∀ m : Message,
        let text := Text.Utf8.bytes (Wire.encode (ServerFrame.message m))
        Wire.decode? text = some m ∧ (Wire.decode? text : Option ErrorFrame) = none) ∧
      ∀ f : ErrorFrame,
        let text := Text.Utf8.bytes (Wire.encode (ServerFrame.error f))
        Wire.decode? text = some f ∧ (Wire.decode? text : Option Message) = none := by
  refine ⟨Wire.decode?_encode, Wire.decode?_encode, Wire.decode?_encode, Wire.decode?_encode,
    Wire.decode?_encode, Wire.decode?_encode, Wire.decode?_encode, Wire.decode?_encode,
    Wire.decode?_encode, Wire.decode?_encode, Wire.decode?_encode, Wire.decode?_encode,
    Wire.decode?_encode, Wire.decode?_encode, fun m => ?_, fun f => ?_⟩
  · rw [ServerFrame.encode_message]
    exact ⟨Wire.decode?_encode m, Wire.decode?_encode_of_none m.error_ofJson?_toJson⟩
  · rw [ServerFrame.encode_error]
    exact ⟨Wire.decode?_encode f, Wire.decode?_encode_of_none f.message_ofJson?_toJson⟩

end ChatRelay
