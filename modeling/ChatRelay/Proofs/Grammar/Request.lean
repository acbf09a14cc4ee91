import ChatRelay.Proofs.Grammar.Base64
import ChatRelay.Proofs.Grammar.Numeral
import ChatRelay.Proofs.Grammar.Value
import ChatRelay.Proofs.RoundTrip.Wire
import ChatRelay.Request

/-! The grammar of requests to send a message.  `SendRequest.SaidBy` says which fields, by name, stand for
which request, and `SendRequest.IsSaid` which JSON values have such fields.  A request is decoded from the
texts of the values that say it, and from nothing else.  Neither relation looks at the order of an object's
members, and a text may be laid out and escaped in any way, so that none of these matter:
`SendRequest.decode?_grammar`. -/

namespace ChatRelay

open Json (NumbersSpelled IsTextOf IsDigits IsNumeral memberTokens itemTokens)

/-! ### Fields by name -/

namespace Json

theorem Shape.of_collect? {s : Shape} (hClosed : s.closed) {members : List Member} {seen fs : Fields}
    (h : s.collect? seen members = some fs) (hSeen : (seen.map (·.1)).Nodup) :
    ∃ ms : Fields, members = ms.map (fun (key, j) => (.unicode key, j)) ∧ (∀ m ∈ ms, m.1 ∈ s.names) ∧
      (ms.map (·.1) ++ seen.map (·.1)).Nodup ∧ fs = ms.reverse ++ seen := by
  induction members generalizing seen with
  | nil =>
    obtain rfl := Option.some.inj h
    exact ⟨[], rfl, by simp, hSeen, rfl⟩
  | cons m members ih =>
    obtain ⟨key | _ | _, j⟩ := m
    · rw [Shape.collect?] at h
      split at h
      · rename_i hName
        split at h
        · simp at h
        · rename_i hFresh
          have hNew : key ∉ seen.map (·.1) := by
            rw [Bool.not_eq_true, Option.isSome_eq_false_iff, Option.isNone_iff_eq_none,
              List.lookup_eq_none_iff] at hFresh
            intro hMem
            obtain ⟨m, hm, rfl⟩ := List.mem_map.1 hMem
            simpa using hFresh m hm
          obtain ⟨ms, rfl, hNames, hDistinct, rfl⟩ := ih h (List.nodup_cons.2 ⟨hNew, hSeen⟩)
          refine ⟨(key, j) :: ms, rfl, List.forall_mem_cons.2 ⟨hName, hNames⟩, ?_, by simp⟩
          exact List.nodup_middle.1 hDistinct
      · simp at h
    all_goals simp [Shape.collect?] at h

namespace Fields

variable {α : Type} {fs : Fields} {name : String} {read? : Json → Option α} {a absent : α}

theorem required_eq_some_iff (hDistinct : (fs.map (·.1)).Nodup) :
    fs.required name read? = some a ↔ ∃ j, (name, j) ∈ fs ∧ read? j = some a := by
  simp only [← lookup_eq_some_iff_mem hDistinct, required]
  cases fs.lookup name <;> simp

theorem withDefault_eq_some_iff (hDistinct : (fs.map (·.1)).Nodup) :
    fs.withDefault name absent read? = some a ↔
      (∃ j, (name, j) ∈ fs ∧ read? j = some a) ∨ (∀ j, (name, j) ∉ fs) ∧ a = absent := by
  simp only [← lookup_eq_some_iff_mem hDistinct, withDefault]
  cases fs.lookup name <;> simp [eq_comm]

end Fields

/-! ### Records -/

/-- The fields of a record, by name: an object of them with none twice and no others, or an array of them all
in order. -/
inductive IsRecord (names : List String) : Json → Fields → Prop
  | object {fs : Fields} (hNames : ∀ m ∈ fs, m.1 ∈ names) (hDistinct : (fs.map (·.1)).Nodup) :
      IsRecord names (ofMembers fs) fs
  | array {items : List Json} (hLength : items.length = names.length) :
      IsRecord names (.array items) (names.zip items)

namespace IsRecord

variable {names : List String} {j k : Json} {fs : Fields}

theorem nodup (hNames : names.Nodup) (h : IsRecord names j fs) : (fs.map (·.1)).Nodup := by
  cases h with
  | object hFields hDistinct => exact hDistinct
  | array hLength => rwa [List.map_fst_zip (Nat.le_of_eq hLength.symm)]

theorem mem_names (h : IsRecord names j fs) {m : String × Json} (hm : m ∈ fs) : m.1 ∈ names := by
  cases h with
  | object hFields hDistinct => exact hFields m hm
  | array hLength => exact (List.of_mem_zip hm).1

/-- A closed record reads its fields, in some order. -/
theorem fields? (h : IsRecord names j fs) :
    ∃ gs, Shape.fields? ⟨names, names.length, true⟩ j = some gs ∧ gs.Perm fs := by
  cases h with
  | object hFields hDistinct =>
    exact ⟨fs.reverse, Shape.fields?_ofMembers _ fs hFields hDistinct, fs.reverse_perm⟩
  | array hLength => exact ⟨_, if_pos ⟨Nat.le_of_eq hLength.symm, Nat.le_of_eq hLength⟩, .refl _⟩

theorem of_fields? {gs : Fields} (h : Shape.fields? ⟨names, names.length, true⟩ j = some gs) :
    ∃ fs, IsRecord names j fs ∧ gs.Perm fs := by
  cases j with
  | object members =>
    obtain ⟨ms, rfl, hNames, hDistinct, rfl⟩ := Shape.of_collect? rfl h (by simp)
    rw [List.append_nil]
    exact ⟨ms, .object hNames (by simpa using hDistinct), ms.reverse_perm⟩
  | array items =>
    rw [Shape.fields?] at h
    split at h
    · rename_i hLength
      obtain rfl := Option.some.inj h
      exact ⟨_, .array (Nat.le_antisymm hLength.2 hLength.1), .refl _⟩
    · simp at h
  | _ => simp [Shape.fields?] at h

theorem numbersSpelled (h : IsRecord names j fs) (hNumbers : NumbersSpelled j.tokens)
    {m : String × Json} (hm : m ∈ fs) : NumbersSpelled m.2.tokens := by
  intro literal hl
  refine hNumbers literal ?_
  cases h with
  | object hFields hDistinct =>
    have hMember : Token.number literal ∈ memberTokens (fs.map fun (key, j) => (.unicode key, j)) :=
      (mem_memberTokens_iff (by simp)).2 ⟨_, List.mem_map_of_mem hm, .inr (.inr hl)⟩
    simp [ofMembers, tokens, hMember]
  | @array items hLength =>
    have hItem : Token.number literal ∈ itemTokens items :=
      (mem_itemTokens_iff (by simp)).2 ⟨m.2, (List.of_mem_zip hm).2, hl⟩
    simp [tokens, hItem]

/-- A record is Unicode if the values of its fields are. -/
theorem allUnicode (h : IsRecord names j fs) (hFields : ∀ m ∈ fs, AllUnicode m.2.tokens) :
    AllUnicode j.tokens := by
  intro q hq
  cases h with
  | object hNames hDistinct =>
    have hMember : Token.text q ∈ memberTokens (fs.map fun (key, j) => (.unicode key, j)) := by
      simpa [ofMembers, tokens] using hq
    obtain ⟨n, hn, hText⟩ := (mem_memberTokens_iff (by simp)).1 hMember
    obtain ⟨m, hm, rfl⟩ := List.mem_map.1 hn
    rcases hText with hKey | hColon | hValue
    · exact ⟨m.1, Token.text.inj hKey⟩
    · simp at hColon
    · exact hFields m hm q hValue
  | @array items hLength =>
    have hItem : Token.text q ∈ itemTokens items := by
      simpa [tokens] using hq
    obtain ⟨k, hk, hText⟩ := (mem_itemTokens_iff (by simp)).1 hItem
    have hSecond : (names.zip items).map (·.2) = items :=
      List.map_snd_zip (Nat.le_of_eq hLength)
    rw [← hSecond] at hk
    obtain ⟨m, hm, rfl⟩ := List.mem_map.1 hk
    exact hFields m hm q hText

end IsRecord

/-! ### Members in another order -/

/-- The same value, but for the order of an object's members. -/
inductive Reordered : Json → Json → Prop
  | same (j : Json) : Reordered j j
  | members {ms ns : List Member} (hPerm : ms.Perm ns) : Reordered (.object ms) (.object ns)

theorem Reordered.symm {j k : Json} (h : j.Reordered k) : k.Reordered j := by
  cases h with
  | same => exact .same j
  | members hPerm => exact .members hPerm.symm

/-- Members with Unicode keys have them in any order. -/
theorem exists_of_perm {ms : Fields} {ns : List Member}
    (h : (ms.map fun (key, j) => ((.unicode key, j) : Member)).Perm ns) :
    ∃ ms' : Fields, object ns = ofMembers ms' ∧ ms.Perm ms' := by
  let plain (m : Member) : String × Json := (m.1.text?.getD "", m.2)
  have hPlain : (ms.map fun (key, j) => ((.unicode key, j) : Member)).map plain = ms := by
    simp [plain, Function.comp_def, Quoted.text?]
  have hBack : ns = (ns.map plain).map fun (key, j) => ((.unicode key, j) : Member) := by
    rw [List.map_map, eq_comm]
    refine (List.map_congr_left fun m hm => ?_).trans (List.map_id ns)
    obtain ⟨n, -, rfl⟩ := List.mem_map.1 (h.mem_iff.2 hm)
    rfl
  refine ⟨ns.map plain, congrArg object hBack, ?_⟩
  have hMap := h.map plain
  rwa [hPlain] at hMap

theorem IsRecord.reordered {names : List String} {j k : Json} {fs : Fields}
    (h : IsRecord names j fs) (hSame : j.Reordered k) : ∃ gs, IsRecord names k gs ∧ fs.Perm gs := by
  cases h with
  | object hFields hDistinct =>
    cases hSame with
    | same => exact ⟨fs, .object hFields hDistinct, .refl fs⟩
    | members hPerm =>
      obtain ⟨gs, hMembers, hPerm⟩ := exists_of_perm hPerm
      rw [hMembers]
      exact ⟨gs, .object (fun m hm => hFields m (hPerm.mem_iff.2 hm))
        ((hPerm.map (·.1)).nodup_iff.1 hDistinct), hPerm⟩
  | array hLength =>
    cases hSame with
    | same => exact ⟨_, .array hLength, .refl _⟩

/-! ### What a value says -/

theorem text?_eq_some_iff {j : Json} {s : String} : j.text? = some s ↔ j = ofString s := by
  constructor
  · intro h
    obtain ⟨q, rfl⟩ : ∃ q, j = .text q := by
      cases j with
      | text q => exact ⟨q, rfl⟩
      | _ => simp [text?] at h
    cases q with
    | unicode t =>
      obtain rfl : t = s := Option.some.inj h
      rfl
    | _ => simp [text?, Quoted.text?] at h
  · rintro rfl
    rfl

end Json

/-- A payload as JSON: `null` if it is empty, or its base64 text. -/
inductive Payload.IsSaid : Payload → Json → Prop
  | null : IsSaid [] .null
  | text (p : Payload) : IsSaid p (.ofString (Text.Base64.encode .standard p))

theorem Payload.ofJson?_eq_some_iff {j : Json} {p : Payload} :
    Payload.ofJson? j = some p ↔ p.IsSaid j := by
  constructor
  · intro h
    unfold Payload.ofJson? at h
    split at h
    · obtain rfl := Option.some.inj h
      exact .null
    · obtain rfl := (Text.Base64.decode?_eq_some_iff .standard).1 h
      exact .text p
    · simp at h
  · intro h
    cases h with
    | null => rfl
    | text => exact Payload.ofJson?_toJson p

/-- Digits that denote the kind's code, without a sign, a fraction or an exponent. -/
def MessageKind.IsSaid (k : MessageKind) (j : Json) : Prop :=
  ∃ literal, j = .number literal ∧ IsDigits literal ∧ Nat.ofDigitChars 10 literal 0 = k.code

theorem MessageKind.ofCode?_eq_some_iff {n : Nat} {k : MessageKind} :
    ofCode? n = some k ↔ n = k.code := by
  constructor
  · intro h
    unfold ofCode? at h
    split at h
    all_goals first | (obtain rfl := Option.some.inj h; rfl) | simp at h
  · rintro rfl
    exact ofCode?_code k

theorem Json.IsNumeral.head?_ne_plus {literal : List Char} (h : IsNumeral literal) :
    literal.head? ≠ some '+' := by
  intro hSign
  obtain ⟨cs, rfl⟩ := List.head?_eq_some_iff.1 hSign
  rcases h with h | ⟨cs, -, h⟩
  · rw [Json.NumberPhase.isUnsigned_cons] at h
    simp at h
  · simp at h

theorem Json.natural?_eq_some {bound n : Nat} {j : Json} (h : j.natural? bound = some n) :
    ∃ literal, j = .number literal ∧ Text.Numeral.natural bound literal = .ok n := by
  cases j with
  | number literal =>
    refine ⟨literal, rfl, ?_⟩
    rw [Json.natural?] at h
    cases hRead : Text.Numeral.natural bound literal with
    | error e => simp [hRead, Except.toOption] at h
    | ok m => simpa [hRead, Except.toOption] using h
  | _ => simp [Json.natural?] at h

theorem MessageKind.natural?_of_ofJson? {j : Json} {k : MessageKind} (h : Wire.ofJson? j = some k) :
    j.natural? 255 = some k.code := by
  obtain ⟨n, hNatural, hCode⟩ := Option.bind_eq_some_iff.1 h
  rwa [ofCode?_eq_some_iff.1 hCode] at hNatural

theorem MessageKind.ofJson?_eq_some_iff {j : Json} {k : MessageKind}
    (hNumbers : ∀ literal, j = .number literal → IsNumeral literal) :
    Wire.ofJson? j = some k ↔ k.IsSaid j := by
  have hBound : k.code ≤ 255 := by cases k <;> decide
  constructor
  · intro h
    obtain ⟨literal, rfl, hRead⟩ := Json.natural?_eq_some (natural?_of_ofJson? h)
    have hSign := (hNumbers literal rfl).head?_ne_plus
    exact ⟨literal, rfl, (Text.Numeral.natural_eq_ok_iff hSign hBound).1 hRead⟩
  · rintro ⟨literal, rfl, hDigits⟩
    have hSign := (hNumbers literal rfl).head?_ne_plus
    have hRead := (Text.Numeral.natural_eq_ok_iff hSign hBound).2 hDigits
    change (Json.natural? 255 (.number literal)).bind ofCode? = some k
    rw [Json.natural?, hRead]
    exact ofCode?_code k

theorem decode?_of_isTextOf {α : Type} [Wire α] {raw : List UInt8} {j : Json} (h : IsTextOf raw j) :
    (Wire.decode? raw : Option α) = Wire.ofJson? j := by
  rw [Wire.decode?, h.parse?]

/-! ### Requests -/

namespace SendRequest

/-- The fields of a request, in order. -/
def fieldNames : List String := ["channel_id", "content", "nonce", "signature", "type"]

/-- The fields give the payload under the name, where a missing one is empty. -/
def GivesPayload (fs : Json.Fields) (name : String) (p : Payload) : Prop :=
  (∃ j, (name, j) ∈ fs ∧ p.IsSaid j) ∨ (∀ j, (name, j) ∉ fs) ∧ p = []

/-- The fields of a request, by name. -/
structure SaidBy (r : SendRequest) (fs : Json.Fields) : Prop where
  destination : ("channel_id", .ofString r.destination) ∈ fs
  content : GivesPayload fs "content" r.content
  nonce : GivesPayload fs "nonce" r.nonce
  signature : GivesPayload fs "signature" r.signature
  kind : ∃ j, ("type", j) ∈ fs ∧ r.kind.IsSaid j

/-- The value is a record of fields that say the request. -/
def IsSaid (r : SendRequest) (j : Json) : Prop :=
  ∃ fs, Json.IsRecord fieldNames j fs ∧ r.SaidBy fs

theorem nodup_fieldNames : fieldNames.Nodup := by
  decide

/-- The request that fields are read as. -/
def ofFields? (fields : Json.Fields) : Option SendRequest := do
  let destination ← fields.required "channel_id" Json.text?
  let content ← fields.withDefault "content" [] Payload.ofJson?
  let nonce ← fields.withDefault "nonce" [] Payload.ofJson?
  let signature ← fields.withDefault "signature" [] Payload.ofJson?
  let kind ← fields.required "type" Wire.ofJson?
  return { destination, content, nonce, signature, kind }

theorem ofJson?_eq (j : Json) :
    (Wire.ofJson? j : Option SendRequest) = (Json.Shape.fields? ⟨fieldNames, 5, true⟩ j).bind ofFields? :=
  rfl

theorem withDefault_payload_iff {fs : Json.Fields} (hDistinct : (fs.map (·.1)).Nodup) {name : String}
    {p : Payload} : fs.withDefault name [] Payload.ofJson? = some p ↔ GivesPayload fs name p := by
  simp only [Json.Fields.withDefault_eq_some_iff hDistinct, Payload.ofJson?_eq_some_iff, GivesPayload]

/-- Fields are read as the request that they say. -/
theorem ofFields?_eq_some_iff {fs : Json.Fields} (hDistinct : (fs.map (·.1)).Nodup)
    (hNumbers : ∀ m ∈ fs, ∀ literal, m.2 = .number literal → IsNumeral literal) {r : SendRequest} :
    ofFields? fs = some r ↔ r.SaidBy fs := by
  have hKind : ∀ k : MessageKind, fs.required "type" Wire.ofJson? = some k ↔
      ∃ j, ("type", j) ∈ fs ∧ k.IsSaid j := by
    intro k
    rw [Json.Fields.required_eq_some_iff hDistinct]
    refine exists_congr fun j => and_congr_right fun hMem => ?_
    exact MessageKind.ofJson?_eq_some_iff fun literal hj => hNumbers _ hMem literal hj
  have hDestination : ∀ s : String, fs.required "channel_id" Json.text? = some s ↔
      ("channel_id", .ofString s) ∈ fs := by
    intro s
    simp [Json.Fields.required_eq_some_iff hDistinct, Json.text?_eq_some_iff]
  obtain ⟨destination, content, nonce, signature, kind⟩ := r
  simp only [ofFields?, Option.bind_eq_bind, Option.bind_eq_some_iff, hDestination, hKind,
    withDefault_payload_iff hDistinct, Option.pure_def, Option.some.injEq, SendRequest.mk.injEq]
  constructor
  · rintro ⟨_, hDestination, _, hContent, _, hNonce, _, hSignature, _, hKind, rfl, rfl, rfl, rfl, rfl⟩
    exact ⟨hDestination, hContent, hNonce, hSignature, hKind⟩
  · rintro ⟨hDestination, hContent, hNonce, hSignature, hKind⟩
    exact ⟨_, hDestination, _, hContent, _, hNonce, _, hSignature, _, hKind, rfl, rfl, rfl, rfl, rfl⟩

theorem SaidBy.perm {r : SendRequest} {fs gs : Json.Fields} (h : r.SaidBy fs) (hPerm : fs.Perm gs) :
    r.SaidBy gs := by
  obtain ⟨hDestination, hContent, hNonce, hSignature, hKind⟩ := h
  simp only [GivesPayload, hPerm.mem_iff] at hDestination hContent hNonce hSignature hKind
  exact ⟨hDestination, hContent, hNonce, hSignature, hKind⟩

/-- Fields that are read as a request hold no text but Unicode. -/
theorem allUnicode_of_ofFields? {fs : Json.Fields} (hDistinct : (fs.map (·.1)).Nodup)
    {r : SendRequest} (h : ofFields? fs = some r) {m : String × Json} (hm : m ∈ fs)
    (hName : m.1 ∈ fieldNames) : Json.AllUnicode m.2.tokens := by
  obtain ⟨name, j⟩ := m
  have hLookup : fs.lookup name = some j := (lookup_eq_some_iff_mem hDistinct).2 hm
  have hString : ∀ s, Json.AllUnicode (Json.ofString s).tokens := by
    intro s q hq
    obtain rfl : q = .unicode s := by simpa [Json.ofString, Json.tokens] using hq
    exact ⟨s, rfl⟩
  have hPayload : ∀ {p : Payload}, p.IsSaid j → Json.AllUnicode j.tokens := by
    intro p hSaid
    cases hSaid with
    | null =>
      intro q hq
      simp [Json.tokens] at hq
    | text => exact hString _
  simp only [ofFields?, Option.bind_eq_bind, Option.bind_eq_some_iff] at h
  obtain ⟨_, hDestination, _, hContent, _, hNonce, _, hSignature, _, hKind, -⟩ := h
  simp only [fieldNames, List.mem_cons, List.not_mem_nil, or_false] at hName
  rcases hName with rfl | rfl | rfl | rfl | rfl
  · rw [Json.Fields.required, hLookup] at hDestination
    obtain rfl := Json.text?_eq_some_iff.1 hDestination
    exact hString _
  · rw [Json.Fields.withDefault, hLookup] at hContent
    exact hPayload (Payload.ofJson?_eq_some_iff.1 hContent)
  · rw [Json.Fields.withDefault, hLookup] at hNonce
    exact hPayload (Payload.ofJson?_eq_some_iff.1 hNonce)
  · rw [Json.Fields.withDefault, hLookup] at hSignature
    exact hPayload (Payload.ofJson?_eq_some_iff.1 hSignature)
  · rw [Json.Fields.required, hLookup] at hKind
    obtain ⟨literal, rfl, -⟩ := Json.natural?_eq_some (MessageKind.natural?_of_ofJson? hKind)
    intro q hq
    simp [Json.tokens] at hq

theorem allUnicode_of_ofJson? {j : Json} {r : SendRequest} (h : Wire.ofJson? j = some r) :
    Json.AllUnicode j.tokens := by
  rw [ofJson?_eq, Option.bind_eq_some_iff] at h
  obtain ⟨gs, hFields, hRead⟩ := h
  obtain ⟨fs, hRecord, hPerm⟩ := Json.IsRecord.of_fields? hFields
  have hDistinct : (gs.map (·.1)).Nodup :=
    (hPerm.map (·.1)).nodup_iff.2 (hRecord.nodup nodup_fieldNames)
  exact hRecord.allUnicode fun m hm =>
    allUnicode_of_ofFields? hDistinct hRead (hPerm.mem_iff.2 hm) (hRecord.mem_names hm)

/-- A value is read as the request that it says. -/
theorem ofJson?_eq_some_iff {j : Json} (hNumbers : NumbersSpelled j.tokens) {r : SendRequest} :
    Wire.ofJson? j = some r ↔ r.IsSaid j := by
  have hFields : ∀ {fs gs}, Json.IsRecord fieldNames j fs → gs.Perm fs →
      (ofFields? gs = some r ↔ r.SaidBy gs) := by
    intro fs gs hRecord hPerm
    refine ofFields?_eq_some_iff ((hPerm.map (·.1)).nodup_iff.2 (hRecord.nodup nodup_fieldNames)) ?_
    intro m hm literal hLiteral
    have hSpelled := hRecord.numbersSpelled hNumbers (hPerm.mem_iff.1 hm)
    exact (Json.isNumber_iff_isNumeral literal).1 (hSpelled literal (by simp [hLiteral, Json.tokens]))
  rw [ofJson?_eq, Option.bind_eq_some_iff]
  constructor
  · rintro ⟨gs, hRead, hSaid⟩
    obtain ⟨fs, hRecord, hPerm⟩ := Json.IsRecord.of_fields? hRead
    exact ⟨fs, hRecord, ((hFields hRecord hPerm).1 hSaid).perm hPerm⟩
  · rintro ⟨fs, hRecord, hSaid⟩
    obtain ⟨gs, hRead, hPerm⟩ := hRecord.fields?
    exact ⟨gs, hRead, (hFields hRecord hPerm).2 (hSaid.perm hPerm.symm)⟩

theorem IsSaid.reordered {r : SendRequest} {j k : Json} (h : r.IsSaid j) (hSame : j.Reordered k) :
    r.IsSaid k := by
  obtain ⟨fs, hRecord, hSaid⟩ := h
  obtain ⟨gs, hRecord, hPerm⟩ := hRecord.reordered hSame
  exact ⟨gs, hRecord, hSaid.perm hPerm⟩

/-- A request is decoded from the texts of the values that say it and from no other bytes.  Texts of one value
are decoded alike, laid out and escaped in any way and with the members of an object in any order. -/
theorem decode?_grammar :
    (∀ (raw : List UInt8) (r : SendRequest),
      Wire.decode? raw = some r ↔ ∃ j, IsTextOf raw j ∧ r.IsSaid j) ∧
    ∀ (raw raw' : List UInt8) (j j' : Json), IsTextOf raw j → IsTextOf raw' j' → j.Reordered j' →
      (Wire.decode? raw : Option SendRequest) = Wire.decode? raw' := by
  constructor
  · intro raw r
    constructor
    · intro h
      rw [Wire.decode?] at h
      split at h
      · rename_i j hParse
        have hText := Json.isTextOf_iff.2 ⟨hParse, allUnicode_of_ofJson? h⟩
        exact ⟨j, hText, (ofJson?_eq_some_iff hText.numbersSpelled).1 h⟩
      · simp at h
    · rintro ⟨j, hText, hSaid⟩
      rw [decode?_of_isTextOf hText]
      exact (ofJson?_eq_some_iff hText.numbersSpelled).2 hSaid
  · intro raw raw' j j' hText hText' hSame
    rw [decode?_of_isTextOf hText, decode?_of_isTextOf hText']
    ext r
    rw [ofJson?_eq_some_iff hText.numbersSpelled, ofJson?_eq_some_iff hText'.numbersSpelled]
    exact ⟨fun h => h.reordered hSame, fun h => h.reordered hSame.symm⟩

theorem decode?_grammar_spellings :
    let raw := Text.Utf8.bytes "\x7b\"channel_id\":\"general\",\"type\":1\x7d"
    let raw' := Text.Utf8.bytes
      "\n\x7b \"type\" : 1, \"\\u0063hannel_id\" : \"g\\u0065neral\" \x7d"
    Wire.decode? raw = some (⟨"general", [], [], [], .text⟩ : SendRequest) ∧
      (Wire.decode? raw : Option SendRequest) = Wire.decode? raw' := by
  intro raw raw'
  have hText : IsTextOf raw
      (.ofMembers [("channel_id", .ofString "general"), ("type", .number ['1'])]) := by
    refine Json.isTextOf_iff.2 ⟨rfl, ?_⟩
    simp [Json.AllUnicode, Json.ofMembers, Json.ofString, Json.tokens, memberTokens]
  have hText' : IsTextOf raw'
      (.ofMembers [("type", .number ['1']), ("channel_id", .ofString "general")]) := by
    refine Json.isTextOf_iff.2 ⟨rfl, ?_⟩
    simp [Json.AllUnicode, Json.ofMembers, Json.ofString, Json.tokens, memberTokens]
  have hSaid : IsSaid ⟨"general", [], [], [], .text⟩
      (.ofMembers [("channel_id", .ofString "general"), ("type", .number ['1'])]) := by
    refine ⟨_, .object (by simp [fieldNames]) (by simp), ?_⟩
    exact ⟨by simp, .inr (by simp), .inr (by simp), .inr (by simp),
      _, by simp, ['1'], rfl, ⟨by simp, by simp [Json.AllDigits]⟩, rfl⟩
  exact ⟨(decode?_grammar.1 _ _).2 ⟨_, hText, hSaid⟩,
    decode?_grammar.2 _ _ _ _ hText hText' (.members (List.Perm.swap _ _ _))⟩

end SendRequest

end ChatRelay
