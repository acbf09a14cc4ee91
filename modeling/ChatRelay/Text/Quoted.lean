import ChatRelay.Text.Hex
import ChatRelay.Text.Hidden

/-! Text in quotes, as an error message shows a value: quotes, backslashes and the usual control
characters have a short escape, every other hidden character its number. -/

namespace ChatRelay.Text

/-- One character inside quotes. -/
def quoteChar (c : Char) : List Char :=
  match c with
  | '\x00' => ['\\', '0']
  | '\t' => ['\\', 't']
  | '\r' => ['\\', 'r']
  | '\n' => ['\\', 'n']
  | '\\' => ['\\', '\\']
  | '"' => ['\\', '"']
  | c => if isHidden c then ['\\', 'u', '{'] ++ Hex.ofNat c.toNat ++ ['}'] else [c]

def quote (s : String) : String :=
  String.ofList ('"' :: s.toList.flatMap quoteChar ++ ['"'])

end ChatRelay.Text
