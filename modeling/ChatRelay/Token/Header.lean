import ChatRelay.Json.Kept
import ChatRelay.Json.Record

/-! The header of a signed token.  It must name the algorithm `HS256`; the other fields that a header
knows may be missing or `null`, and must be well formed where they are given. -/

namespace ChatRelay.Token

/-! ### Fields -/

/-- A word of a fixed list. -/
def isWord (words : List String) (j : Json) : Bool :=
  (Json.word? (fun word => if word ∈ words then some word else none) j).isSome

/-- A field that holds one of `words`. -/
def hasWord (fields : Json.Fields) (name : String) (words : List String) : Bool :=
  (fields.lookup name).any (isWord words)

/-- A field that holds a text. -/
def hasText (fields : Json.Fields) (name : String) : Bool :=
  (fields.required name Json.text?).isSome

/-- A field that is missing, `null`, or accepted by `read?`. -/
def optional {α : Type} (fields : Json.Fields) (name : String) (read? : Json → Option α) : Bool :=
  (fields.withDefault name none (Json.nullable read?)).isSome

/-! ### Embedded keys -/

def keyAlgorithms : List String :=
  ["HS256", "HS384", "HS512", "ES256", "ES384", "RS256", "RS384", "RS512", "PS256", "PS384", "PS512",
    "EdDSA", "RSA1_5", "RSA-OAEP", "RSA-OAEP-256"]

/-- An algorithm that a key may be meant for.  An empty object counts as `null` in an object that maps
the algorithm to it. -/
def isKeyAlgorithm (j : Json) : Bool :=
  match j with
  | .object [(name, .object [])] => isWord keyAlgorithms (.object [(name, .null)])
  | j => isWord keyAlgorithms j

/-- The curves that a key may lie on. -/
def curves : List String := ["P-256", "P-384", "P-521", "Ed25519"]

/-- A kind of keys: its name, whether its keys lie on a curve, and the texts that describe a key. -/
structure KeyKind where
  name : String
  onCurve : Bool
  texts : List String

def keyKinds : List KeyKind :=
  [⟨"EC", true, ["x", "y"]⟩, ⟨"RSA", false, ["n", "e"]⟩, ⟨"oct", false, ["k"]⟩, ⟨"OKP", true, ["x"]⟩]

/-- The object describes a key of a kind.  Fields of other kinds are skipped. -/
def KeyKind.describes (kind : KeyKind) (j : Json) : Bool :=
  let names := "kty" :: (if kind.onCurve then ["crv"] else []) ++ kind.texts
  match Json.Shape.fields? ⟨names, names.length, false⟩ j with
  | some fields =>
    hasWord fields "kty" [kind.name] && (!kind.onCurve || hasWord fields "crv" curves) &&
      kind.texts.all (hasText fields)
  | none => false

/-- What any key may say of its use. -/
def keyShape : Json.Shape where
  names := ["use", "key_ops", "alg", "kid", "x5u", "x5c", "x5t", "x5t#S256"]
  positional := 8

/-- A public key, kept whole inside a header. -/
def key? (j : Json) : Option Json.Fields :=
  match j with
  | .object _ =>
    if j.keep (Json.maxDepth - 1) = .kept then do
      let fields ← keyShape.fields? j
      if keyKinds.any (·.describes j) && optional fields "alg" (Option.guard isKeyAlgorithm) &&
          ["use", "kid", "x5u", "x5t", "x5t#S256"].all (optional fields · Json.text?) &&
          ["key_ops", "x5c"].all (optional fields · (Json.list? Json.text?)) then
        some fields
      else none
    else none
  | _ => none

/-! ### Headers -/

def headerShape : Json.Shape where
  names := ["typ", "alg", "cty", "jku", "jwk", "kid", "x5u", "x5c", "x5t", "x5t#S256"]
  positional := 10

/-- The header of a token signed with `HS256`. -/
def isHeader (j : Json) : Bool :=
  match headerShape.fields? j with
  | some fields =>
    hasWord fields "alg" ["HS256"] && optional fields "jwk" key? &&
      optional fields "x5c" (Json.list? Json.text?) &&
      ["typ", "cty", "jku", "kid", "x5u", "x5t", "x5t#S256"].all (optional fields · Json.text?)
  | none => false

end ChatRelay.Token
