import ChatRelay.Json.Token
import ChatRelay.Text.Hex
import ChatRelay.Text.Utf8

/-! The characters between the quotes of a JSON text, one byte at a time.  Escapes must be well formed, and
no byte below the space may stand unescaped; but a text need not be Unicode: its bytes may fail to be
UTF-8, and a code unit of a surrogate pair may stand alone. -/

namespace ChatRelay.Json

/-- How much of an escape is read: nothing, its backslash, or some digits of a code unit. -/
inductive Escape where
  | outside
  | backslash
  | unit (digits value : Nat)
  deriving DecidableEq, Repr

/-- A text being read: its bytes so far, last first, whether each half of a pair so far has found the
other, and a first half that waits for the second. -/
structure TextScan where
  bytes : List UInt8 := []
  paired : Bool := true
  lead : Option Nat := none
  escape : Escape := .outside
  deriving DecidableEq, Repr

namespace TextScan

/-- Adds bytes; a code unit that still waits is alone for good. -/
def push (t : TextScan) (bs : List UInt8) : TextScan :=
  { bytes := bs.reverse ++ t.bytes
    paired := t.paired && t.lead.isNone
    lead := none
    escape := .outside }

def pushChar (t : TextScan) (n : Nat) : TextScan :=
  t.push (String.utf8EncodeChar (Char.ofNat n))

/-- Adds a code unit: a character, or half of a pair. -/
def pushUnit (t : TextScan) (n : Nat) : TextScan :=
  if 0xD800 ≤ n ∧ n < 0xDC00 then { t.push [] with lead := some n }
  else if 0xDC00 ≤ n ∧ n < 0xE000 then
    match t.lead with
    | some high => { t with lead := none }.pushChar (0x10000 + (high - 0xD800) * 0x400 + (n - 0xDC00))
    | none => { t.push [] with paired := false }
  else t.pushChar n

/-- The character that a letter after a backslash stands for. -/
def letter? (c : Char) : Option Nat :=
  match c with
  | '"' => some 0x22
  | '\\' => some 0x5C
  | '/' => some 0x2F
  | 'b' => some 0x08
  | 'f' => some 0x0C
  | 'n' => some 0x0A
  | 'r' => some 0x0D
  | 't' => some 0x09
  | _ => none

/-- Reads a byte other than a closing quote. -/
def step? (t : TextScan) (b : UInt8) : Option TextScan :=
  match t.escape with
  | .outside =>
    if b = 0x5C then some { t with escape := .backslash }
    else if b < 0x20 then none
    else some (t.push [b])
  | .backslash =>
    if b = 0x75 then some { t with escape := .unit 0 0 }
    else (letter? (Char.ofNat b.toNat)).map t.pushChar
  | .unit digits value =>
    (Text.Hex.value? (Char.ofNat b.toNat)).map fun d =>
      let value := value * 16 + d.val
      if digits = 3 then t.pushUnit value else { t with escape := .unit (digits + 1) value }

def finish (t : TextScan) : Quoted :=
  if ¬ t.paired then .faultyInside
  else if t.lead.isSome then .faultyAtEnd
  else
    match Text.Utf8.string? t.bytes.reverse with
    | some s => .unicode s
    | none => .faultyAtEnd

end TextScan

end ChatRelay.Json
