import ChatRelay.Json.Value
import ChatRelay.Text.Base64
import ChatRelay.Text.Numeral
import ChatRelay.Uuid

/-! Reading records and their fields out of JSON.  A record is an object, or an array of its fields in
order.  In an object a field stands at most once, and other keys are skipped, or refused where the
record is closed.  The fields of an array that may be missing are the last ones. -/

namespace ChatRelay.Json

/-! ### Records -/

/-- The fields of a record in order, how many of them an array must have, and whether other keys are
refused. -/
structure Shape where
  names : List String
  positional : Nat
  closed : Bool := false

/-- The fields that a record gives, by name. -/
abbrev Fields := List (String × Json)

namespace Shape

/-- The fields among `members`, added to those already seen. -/
def collect? (s : Shape) (seen : Fields) : List Member → Option Fields
  | [] => some seen
  | (.faultyAtEnd, _) :: _ | (.faultyInside, _) :: _ => none
  | (.unicode key, j) :: rest =>
    if key ∈ s.names then
      if (seen.lookup key).isSome then none else collect? s ((key, j) :: seen) rest
    else if s.closed then none
    else collect? s seen rest

def fields? (s : Shape) : Json → Option Fields
  | object members => s.collect? [] members
  | array items =>
    if s.positional ≤ items.length ∧ items.length ≤ s.names.length then some (s.names.zip items)
    else none
  | _ => none

end Shape

namespace Fields

/-- A field that must be there. -/
def required {α : Type} (fs : Fields) (name : String) (read? : Json → Option α) : Option α :=
  match fs.lookup name with
  | some j => read? j
  | none => none

/-- A field that may be missing, and then has the value `absent`. -/
def withDefault {α : Type} (fs : Fields) (name : String) (absent : α) (read? : Json → Option α) :
    Option α :=
  match fs.lookup name with
  | some j => read? j
  | none => some absent

end Fields

/-! ### Fields -/

def text? : Json → Option String
  | text value => value.text?
  | _ => none

def bool? : Json → Option Bool
  | bool value => some value
  | _ => none

/-- A value that may be `null`. -/
def nullable {α : Type} (read? : Json → Option α) : Json → Option (Option α)
  | null => some none
  | j => (read? j).map some

def list? {α : Type} (read? : Json → Option α) : Json → Option (List α)
  | array items => items.mapM read?
  | _ => none

/-- An unsigned integer of at most `bound`, written without a sign, a fraction or an exponent. -/
def natural? (bound : Nat) : Json → Option Nat
  | number literal => (Text.Numeral.natural bound literal).toOption
  | _ => none

/-- A signed integer of 64 bits, written without a fraction or an exponent, and zero without a sign. -/
def int64? : Json → Option Int64
  | number literal =>
    if literal = ['-', '0'] then none else (Text.Numeral.int64 literal).toOption
  | _ => none

def uuid? (j : Json) : Option Uuid :=
  j.text? >>= Uuid.ofString?

/-- The value of a word from a fixed list, which is a text, or an object that maps the word to
`null`. -/
def word? {α : Type} (read? : String → Option α) : Json → Option α
  | text (.unicode s) => read? s
  | object [(.unicode s, null)] => read? s
  | _ => none

end ChatRelay.Json
