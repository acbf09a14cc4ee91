import ChatRelay.Wire

/-! Channels, their kinds and their members, as clients see them. -/

namespace ChatRelay

/-- Who may see a channel: everyone, its members, or the two users of a direct conversation. -/
inductive ChannelKind where
  | shared
  | closed
  | direct
  deriving DecidableEq, Repr

namespace ChannelKind

def word : ChannelKind → String
  | shared => "public"
  | closed => "private"
  | direct => "dm"

def ofWord? : String → Option ChannelKind
  | "public" => some shared
  | "private" => some closed
  | "dm" => some direct
  | _ => none

theorem ofWord?_word (k : ChannelKind) : ofWord? k.word = some k := by
  cases k <;> rfl

def unknownMessage (word : String) : String :=
  "unknown channel type: " ++ word

/-- Everyone may see the channel. -/
def isShared (k : ChannelKind) : Bool :=
  k == shared

instance : Wire ChannelKind where
  toJson k := .ofString k.word
  ofJson? := Json.word? ofWord?

end ChannelKind

structure Channel where
  id : String
  name : String
  kind : ChannelKind
  deriving DecidableEq, Repr

instance : Wire Channel where
  toJson c := .ofMembers [("id", .ofString c.id), ("name", .ofString c.name),
    ("type", Wire.toJson c.kind)]
  ofJson? j := do
    let fields ← Json.Shape.fields? ⟨["id", "name", "type"], 3, false⟩ j
    let id ← fields.required "id" Json.text?
    let name ← fields.required "name" Json.text?
    let kind ← fields.required "type" Wire.ofJson?
    return { id, name, kind }

structure ChannelMember where
  id : String
  username : String
  fullName : String
  deriving DecidableEq, Repr

instance : Wire ChannelMember where
  toJson m := .ofMembers [("id", .ofString m.id), ("username", .ofString m.username),
    ("full_name", .ofString m.fullName)]
  ofJson? j := do
    let fields ← Json.Shape.fields? ⟨["id", "username", "full_name"], 3, false⟩ j
    let id ← fields.required "id" Json.text?
    let username ← fields.required "username" Json.text?
    let fullName ← fields.required "full_name" Json.text?
    return { id, username, fullName }

end ChatRelay
