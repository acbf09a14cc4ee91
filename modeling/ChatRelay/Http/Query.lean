import ChatRelay.Text.Hex
import ChatRelay.Text.Numeral
import ChatRelay.Text.Utf8

/-! Query strings: pairs of a name and a value joined by `&`, in which `+` is a space and `%` precedes
two hexadecimal digits of a byte.  A record is read from the pairs in order; other names are skipped,
and the first pair that cannot be read decides the error. -/

namespace ChatRelay.Http

/-! ### Pairs -/

/-- The bytes of an encoded text. -/
def unescapeOnto (out : List UInt8) : List Char → List UInt8
  | '+' :: rest => unescapeOnto (0x20 :: out) rest
  | '%' :: c :: d :: rest =>
    match Text.Hex.value? c, Text.Hex.value? d with
    | some high, some low => unescapeOnto (UInt8.ofNat (high.val * 16 + low.val) :: out) rest
    | _, _ => unescapeOnto (0x25 :: out) (c :: d :: rest)
  | c :: rest => unescapeOnto ((String.utf8EncodeChar c).reverse ++ out) rest
  | [] => out.reverse

def unescape (cs : List Char) : String :=
  Text.Utf8.lossy (unescapeOnto [] cs)

/-- The name and the value of a pair; a pair without `=` has an empty value. -/
def pairOf (cs : List Char) : String × String :=
  (unescape (cs.takeWhile (· ≠ '=')), unescape ((cs.dropWhile (· ≠ '=')).drop 1))

/-- The pairs of a query string; an empty one is skipped. -/
def pairs (query : String) : List (String × String) :=
  ((query.toList.splitOn '&').filter (! ·.isEmpty)).map pairOf

/-! ### Records -/

/-- Why a query string cannot be read. -/
inductive QueryError where
  | duplicate (name : String)
  | numeral (name : String) (cause : Text.NumeralError)
  deriving DecidableEq, Repr

def QueryError.message : QueryError → String
  | duplicate name => "Failed to deserialize query string: duplicate field `" ++ name ++ "`"
  | numeral name cause => "Failed to deserialize query string: " ++ name ++ ": " ++ cause.message

/-- A value that may be given once. -/
def once {α : Type} (name : String) (known : Option α) (read : Except Text.NumeralError α) :
    Except QueryError (Option α) :=
  if known.isSome then .error (.duplicate name)
  else
    match read with
    | .ok a => .ok (some a)
    | .error cause => .error (.numeral name cause)

/-- The value of a name that may be given once. -/
def value? (name : String) (query : String) : Except QueryError (Option String) :=
  (pairs query).foldlM (fun known (key, value) =>
    if key = name then once name known (.ok value) else .ok known) none

/-- What a request for history asks. -/
structure HistoryQuery where
  channel : Option String := none
  limit : Option Nat := none
  before : Option Int64 := none
  deriving DecidableEq, Repr

namespace HistoryQuery

def step (q : HistoryQuery) (pair : String × String) : Except QueryError HistoryQuery :=
  match pair with
  | ("channel_id", value) => (once "channel_id" q.channel (.ok value)).map ({ q with channel := · })
  | ("limit", value) =>
    (once "limit" q.limit (Text.Numeral.natural (UInt32.size - 1) value.toList)).map
      ({ q with limit := · })
  | ("before", value) =>
    (once "before" q.before (Text.Numeral.int64 value.toList)).map ({ q with before := · })
  | _ => .ok q

def ofQuery (query : String) : Except QueryError HistoryQuery :=
  (pairs query).foldlM step {}

end HistoryQuery

end ChatRelay.Http
