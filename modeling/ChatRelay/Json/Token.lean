/-! The tokens of JSON text and how they are spelled.  A number is its literal.  A text is the
characters between its quotes after unescaping, or the fault that keeps these from being Unicode. -/

namespace ChatRelay.Json

/-- The characters between quotes.  If they are not Unicode, the fault shows at their end, where their
bytes are not UTF-8 or the first half of a surrogate pair comes last; or it shows inside, where half of a
pair stands alone before the end. -/
inductive Quoted where
  | unicode (text : String)
  | faultyAtEnd
  | faultyInside
  deriving DecidableEq, Repr

def Quoted.text? : Quoted → Option String
  | unicode text => some text
  | faultyAtEnd | faultyInside => none

inductive Token where
  | openArray
  | closeArray
  | openObject
  | closeObject
  | comma
  | colon
  | null
  | bool (value : Bool)
  | number (literal : List Char)
  | text (value : Quoted)
  deriving DecidableEq, Repr

/-- A hexadecimal digit of an escape, in lower case. -/
def hexDigit (n : Nat) : Char :=
  if n < 10 then Char.ofNat (n + 48) else Char.ofNat (n + 87)

/-- One character between quotes: quotes, backslashes and the characters below the space are escaped,
the usual ones by a letter and the others by number. -/
def escape (c : Char) : List Char :=
  match c with
  | '"' => ['\\', '"']
  | '\\' => ['\\', '\\']
  | '\x08' => ['\\', 'b']
  | '\t' => ['\\', 't']
  | '\n' => ['\\', 'n']
  | '\x0c' => ['\\', 'f']
  | '\r' => ['\\', 'r']
  | c =>
    if c.toNat < 0x20 then
      ['\\', 'u', '0', '0', hexDigit (c.toNat / 16), hexDigit (c.toNat % 16)]
    else [c]

/-- The text of a token.  A text that is not Unicode is spelled as half of a surrogate pair, the first
half if the fault shows at the end. -/
def Token.spell : Token → List Char
  | openArray => ['[']
  | closeArray => [']']
  | openObject => ['{']
  | closeObject => ['}']
  | comma => [',']
  | colon => [':']
  | null => "null".toList
  | bool true => "true".toList
  | bool false => "false".toList
  | number literal => literal
  | text (.unicode s) => '"' :: s.toList.flatMap escape ++ ['"']
  | text .faultyAtEnd => "\"\\ud800\"".toList
  | text .faultyInside => "\"\\udc00\"".toList

end ChatRelay.Json
