import ChatRelay.Proofs.Grammar.Request
import ChatRelay.Proofs.Grammar.Spelling

/-! Payload texts.  A payload has one text, and a text at most one payload: content, nonce and signature are
decoded from just the text that they are encoded as, in requests and in messages, and every other text is
refused.  Which text that is does not depend on the encoder: it is the one that spells the bytes, and a text
that spells none has a fault.  All of it is `Payload.text_is_canonical`. -/

namespace ChatRelay

open Json (IsTextOf)

/-- The members of a request's JSON form. -/
def SendRequest.members (r : SendRequest) : List (String × Json) :=
  [("channel_id", .ofString r.destination), ("content", r.content.toJson),
    ("nonce", r.nonce.toJson), ("signature", r.signature.toJson), ("type", Wire.toJson r.kind)]

namespace Payload

/-! ### Fields that hold a payload -/

inductive Field where
  | content
  | nonce
  | signature
  deriving DecidableEq, Repr

namespace Field

def name : Field → String
  | content => "content"
  | nonce => "nonce"
  | signature => "signature"

/-- The members with the text `s` in the field. -/
def saying (f : Field) (s : String) (members : List (String × Json)) : List (String × Json) :=
  members.map fun m => (m.1, if m.1 = f.name then .ofString s else m.2)

/-- The request with the payload in the field. -/
def inRequest (f : Field) (p : Payload) (r : SendRequest) : SendRequest :=
  match f with
  | content => { r with content := p }
  | nonce => { r with nonce := p }
  | signature => { r with signature := p }

/-- The message with the payload in the field. -/
def inMessage (f : Field) (p : Payload) (m : Message) : Message :=
  match f with
  | content => { m with content := p }
  | nonce => { m with nonce := p }
  | signature => { m with signature := p }

theorem keys_saying (f : Field) (s : String) (members : List (String × Json)) :
    (f.saying s members).map (·.1) = members.map (·.1) := by
  rw [saying, List.map_map]
  rfl

/-- A record with a text in the field gives its members as its fields, last first. -/
theorem fields?_saying (f : Field) (s : String) (shape : Json.Shape) (members : List (String × Json))
    (hNames : ∀ name ∈ members.map (·.1), name ∈ shape.names) (hDistinct : (members.map (·.1)).Nodup) :
    shape.fields? (.ofMembers (f.saying s members)) = some (f.saying s members).reverse := by
  rw [← f.keys_saying s] at hNames hDistinct
  exact shape.fields?_ofMembers _ (fun m hm => hNames m.1 (List.mem_map_of_mem hm)) hDistinct

/-- A request is read as it was written, but for the field, which is read from its text. -/
theorem ofJson?_inRequest (f : Field) (s : String) (r : SendRequest) :
    Wire.ofJson? (.ofMembers (f.saying s r.members)) =
      (ofJson? (.ofString s)).map fun p => f.inRequest p r := by
  have hFields := f.fields?_saying s ⟨SendRequest.fieldNames, 5, true⟩ r.members
    (by simp [SendRequest.members, SendRequest.fieldNames]) (by simp [SendRequest.members])
  have hKind : Wire.ofJson? (Wire.toJson r.kind) = some r.kind := LawfulWire.ofJson?_toJson r.kind
  rw [SendRequest.ofJson?_eq, hFields]
  cases f <;>
    simp [SendRequest.ofFields?, saying, SendRequest.members, name, inRequest, Json.Fields.required,
      Json.Fields.withDefault, List.lookup_cons, Json.text?_ofString, ofJson?_toJson, hKind,
      Option.map_eq_bind]

/-- A message is read as it was written, but for the field, which is read from its text. -/
theorem ofJson?_inMessage (f : Field) (s : String) (m : Message) :
    Wire.ofJson? (.ofMembers (f.saying s m.members)) =
      (ofJson? (.ofString s)).map fun p => f.inMessage p m := by
  have hFields := f.fields?_saying s ⟨["id", "channel_id", "sender_id", "timestamp", "type",
    "content", "nonce", "signature"], 5, false⟩ m.members
    (by simp [Message.members]) (by simp [Message.members])
  have hKind : (Json.natural? 255 (Wire.toJson m.kind)).bind MessageKind.ofCode? = some m.kind :=
    LawfulWire.ofJson?_toJson m.kind
  simp only [Wire.ofJson?]
  rw [hFields]
  cases f <;>
    simp [saying, Message.members, name, inMessage, Json.Fields.required,
      Json.Fields.withDefault, List.lookup_cons, Json.text?_ofString, Json.uuid?_ofString,
      Json.int64?_ofInt, ofJson?_toJson, hKind, Option.map_eq_bind]

end Field

/-! ### One text for each payload -/

theorem ofJson?_ofString (s : String) :
    ofJson? (.ofString s) = Text.Base64.decode? .standard s := rfl

theorem ofJson?_ofString_eq_some_iff {s : String} {p : Payload} :
    ofJson? (.ofString s) = some p ↔ .ofString s = p.toJson := by
  rw [ofJson?_ofString, Text.Base64.decode?_eq_some_iff]
  simp [toJson, Json.ofString]

theorem ofJson?_of_line_break {s : String} (h : '\n' ∈ s.toList ∨ '\r' ∈ s.toList) :
    ofJson? (.ofString s) = none := by
  rw [ofJson?_ofString, Text.Base64.decode?_eq_none_iff]
  rcases h with h | h
  · exact .foreign '\n' h (by decide) (by decide)
  · exact .foreign '\r' h (by decide) (by decide)

/-- A text is decoded to a payload just if the payload is encoded as it, which is the one text that spells
its bytes, and a text is refused just if it has a fault.  So it is in every field of requests and messages,
however their texts are laid out and escaped: the rest of the record is read as it was written. -/
theorem text_is_canonical :
    (∀ (s : String) (p : Payload), ofJson? (.ofString s) = some p ↔ .ofString s = p.toJson) ∧
    (∀ (s : String) (p : Payload), ofJson? (.ofString s) = some p ↔ Text.Base64.Spells s.toList p) ∧
    (∀ p : Payload, ofJson? p.toJson = some p) ∧
    (∀ (s s' : String) (p : Payload), ofJson? (.ofString s) = some p → ofJson? (.ofString s') = some p →
      s = s') ∧
    (∀ s : String, ofJson? (.ofString s) = none ↔ Text.Base64.Fault s.toList) ∧
    (∀ s : String, '\n' ∈ s.toList ∨ '\r' ∈ s.toList → ofJson? (.ofString s) = none) ∧
    (∀ (f : Field) (s : String) (r : SendRequest) (raw : List UInt8),
      IsTextOf raw (.ofMembers (f.saying s r.members)) →
        Wire.decode? raw = (ofJson? (.ofString s)).map fun p => f.inRequest p r) ∧
    ∀ (f : Field) (s : String) (m : Message) (raw : List UInt8),
      IsTextOf raw (.ofMembers (f.saying s m.members)) →
        Wire.decode? raw = (ofJson? (.ofString s)).map fun p => f.inMessage p m := by
  refine ⟨fun _ _ => ofJson?_ofString_eq_some_iff, fun _ _ => Text.Base64.decode?_eq_some_iff_spells,
    ofJson?_toJson, fun s s' p h h' => ?_, fun _ => Text.Base64.decode?_eq_none_iff,
    fun _ => ofJson?_of_line_break, fun f s r raw hText => ?_, fun f s m raw hText => ?_⟩
  · rw [ofJson?_ofString_eq_some_iff] at h h'
    exact Option.some.inj (congrArg Json.text? (h.trans h'.symm))
  · rw [decode?_of_isTextOf hText, f.ofJson?_inRequest]
  · rw [decode?_of_isTextOf hText, f.ofJson?_inMessage]

theorem text_is_canonical_hi :
    let raw := Text.Utf8.bytes
      "\x7b\"channel_id\":\"general\",\"content\":\"\\u0061Gk=\",\"nonce\":\"\",\"signature\":\"\",\"type\":1\x7d"
    let raw' := Text.Utf8.bytes
      ("\x7b\"id\":\"00000000-0000-0000-0000-000000000000\",\"channel_id\":\"general\",\"sender_id\":\"ann\"," ++
        "\"timestamp\":7,\"type\":1,\"content\":\"\",\"nonce\":\"aGl=\",\"signature\":\"\"\x7d")
    ofJson? (.ofString "aGk=") = some [104, 105] ∧ ofJson? (.ofString "aGl=") ≠ some [104, 105] ∧
      ofJson? (.ofString "aG\nk=") = none ∧
      Wire.decode? raw = some (⟨"general", [104, 105], [], [], .text⟩ : SendRequest) ∧
      (Wire.decode? raw' : Option Message) = none := by
  intro raw raw'
  obtain ⟨hSome, -, -, hOne, -, hBreak, hRequest, hMessage⟩ := text_is_canonical
  let r : SendRequest := ⟨"general", [], [], [], .text⟩
  let m : Message := ⟨.zero, "general", "ann", 7, .text, [], [], []⟩
  have hNone : toJson [] = .ofString "" := rfl
  have hKind : Wire.toJson MessageKind.text = .number ['1'] := rfl
  have hId : Uuid.zero.toString = "00000000-0000-0000-0000-000000000000" := rfl
  have hTime : Json.ofInt 7 = .number ['7'] := rfl
  have hContent : Field.content.saying "aGk=" r.members = [("channel_id", .ofString "general"),
      ("content", .ofString "aGk="), ("nonce", .ofString ""), ("signature", .ofString ""),
      ("type", .number ['1'])] := by
    simp [Field.saying, SendRequest.members, Field.name, r, hNone, hKind]
  have hNonce : Field.nonce.saying "aGl=" m.members =
      [("id", .ofString "00000000-0000-0000-0000-000000000000"), ("channel_id", .ofString "general"),
      ("sender_id", .ofString "ann"), ("timestamp", .number ['7']), ("type", .number ['1']),
      ("content", .ofString ""), ("nonce", .ofString "aGl="), ("signature", .ofString "")] := by
    simp [Field.saying, Message.members, Field.name, m, hNone, hKind, hId, hTime]
  have hText : IsTextOf raw (.ofMembers (Field.content.saying "aGk=" r.members)) := by
    rw [hContent]
    refine Json.isTextOf_iff.2 ⟨rfl, ?_⟩
    simp [Json.AllUnicode, Json.ofMembers, Json.ofString, Json.tokens, Json.memberTokens]
  have hText' : IsTextOf raw' (.ofMembers (Field.nonce.saying "aGl=" m.members)) := by
    rw [hNonce]
    refine Json.isTextOf_iff.2 ⟨rfl, ?_⟩
    simp [Json.AllUnicode, Json.ofMembers, Json.ofString, Json.tokens, Json.memberTokens]
  have hHi := (hSome "aGk=" [104, 105]).2 rfl
  refine ⟨hHi, fun h => ?_, hBreak _ (by decide), ?_, ?_⟩
  · have hSame := hOne _ _ _ hHi h
    contradiction
  · rw [hRequest .content _ r raw hText, hHi]
    rfl
  · rw [hMessage .nonce _ m raw' hText']
    rfl

end Payload

end ChatRelay
