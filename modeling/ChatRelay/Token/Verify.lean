import ChatRelay.Json.Kept
import ChatRelay.Token.Claims
import ChatRelay.Token.Header
import ChatRelay.Token.Sha256

/-! Checking a bearer token: three base64 parts joined by points, of which the last is the keyed hash
of the others.  A token must not have expired more than a minute ago, and must not be meant for a named
audience. -/

namespace ChatRelay.Token

/-- How many seconds a token is honoured after it expires. -/
def leeway : Nat := 60

/-! ### Registered claims -/

/-- The registered claims, which are read apart from the others. -/
def registeredShape : Json.Shape where
  names := ["exp", "nbf", "sub", "iss", "aud"]
  positional := 6

/-- A reader for a single text or number comes to the end of the value, whatever it finds. -/
def isScalar (j : Json) : Bool :=
  j.keep 0 ≠ .stuck

/-- A reader for a single number comes to the end of the value, or finds a list without items. -/
def isTime : Json → Bool
  | .array items => items.isEmpty
  | .object members => members.isEmpty
  | j => isScalar j

/-- A reader that keeps the value comes to its end. -/
def isReadable (j : Json) : Bool :=
  j.keep (Json.maxDepth - 1) ≠ .stuck

/-- The value names an audience: a text, or a list of texts. -/
def namesAudience (j : Json) : Bool :=
  (Json.text? j).isSome || (Json.list? Json.text? j).isSome

/-- The registered claims can be read and name no audience.  One of the wrong kind is as good as missing,
as long as its reader comes to its end. -/
def admits (j : Json) : Bool :=
  match registeredShape.fields? j with
  | some fields =>
    (fields.lookup "sub").all isScalar && (fields.lookup "nbf").all isTime &&
      (fields.lookup "iss").all isReadable &&
      (fields.lookup "aud").all (fun j => isReadable j && !namesAudience j)
  | none => false

/-! ### Tokens -/

/-- A text before and after its last point. -/
def splitLast? (cs : List Char) : Option (List Char × List Char) :=
  let after := (cs.reverse.takeWhile (· ≠ '.')).reverse
  if after.length < cs.length then some (cs.take (cs.length - after.length - 1), after) else none

/-- The value of a base64 part. -/
def part? (cs : List Char) : Option Json :=
  Text.Base64.decode? .urlSafe (String.ofList cs) >>= Json.parse?

/-- The signature of a signed text. -/
def signature (secret : String) (signed : List Char) : String :=
  Text.Base64.encode .urlSafe
    (Sha256.hmac (Text.Utf8.bytes secret) (Text.Utf8.bytes (String.ofList signed)))

/-- The claims of a token that is valid at second `now` under `secret`. -/
def verify? (secret : String) (now : Nat) (token : String) : Option Claims := do
  let (signed, last) ← splitLast? token.toList
  let (first, middle) ← splitLast? signed
  guard ((part? first).any isHeader)
  guard (String.ofList last = signature secret signed)
  let body ← part? middle
  let claims ← Wire.ofJson? body
  guard (admits body)
  guard (now ≤ (claims : Claims).expiry.toNat + leeway)
  return claims

end ChatRelay.Token
