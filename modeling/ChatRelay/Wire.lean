import ChatRelay.Json.Record
import ChatRelay.Text.Utf8

/-! Types with a JSON form.  `Wire.encode` writes a value as text and `Wire.decode?` reads one from
bytes. -/

namespace ChatRelay

/-- A type with a JSON form. -/
class Wire (α : Type) where
  /-- The JSON value that a value is written as. -/
  toJson : α → Json
  /-- The value that a JSON value is read as. -/
  ofJson? : Json → Option α

namespace Wire

variable {α : Type} [Wire α]

/-- The text of a value, without white space. -/
def encode (a : α) : String :=
  (toJson a).render

/-- The value of a JSON text. -/
def decode? (raw : List UInt8) : Option α :=
  match Json.parse? raw with
  | some j => ofJson? j
  | none => none

/-- A value is written as a list of its items. -/
instance : Wire (List α) where
  toJson items := .array (items.map toJson)
  ofJson? := Json.list? ofJson?

end Wire

end ChatRelay
