import ChatRelay.Wire

/-! What a bearer token says about its holder. -/

namespace ChatRelay

/-- The claims of a bearer token: the holder's name in the user directory, and the second since 1970
at which the token expires. -/
structure Claims where
  username : String
  role : Option String := none
  expiry : UInt64
  deriving DecidableEq

instance : Wire Claims where
  toJson c := .ofMembers (("username", .ofString c.username) ::
    (match c.role with
      | some role => [("role", .ofString role)]
      | none => []) ++
    [("exp", .ofInt c.expiry.toNat)])
  ofJson? j := do
    let fields ← Json.Shape.fields? ⟨["username", "role", "exp"], 3, false⟩ j
    let username ← fields.required "username" Json.text?
    let role ← fields.withDefault "role" none (Json.nullable Json.text?)
    let expiry ← fields.required "exp" (Json.natural? (UInt64.size - 1))
    return { username, role, expiry := UInt64.ofNat expiry }

end ChatRelay
