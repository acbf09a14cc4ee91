import ChatRelay.Json.NumberPhase
import ChatRelay.Json.TextScan
import ChatRelay.Json.Token

/-! The tokens of a byte string.  The scanner takes one byte at a time, between tokens or inside a word, a
number or a text.  White space is the space, the tab, the line feed and the carriage return.  A number
ends where it cannot go on, and the byte after it is read again as one between tokens. -/

namespace ChatRelay.Json

/-- Where the scanner is. -/
inductive Scan where
  | between
  | word (rest : List UInt8) (token : Token)
  | number (literal : List Char) (phase : NumberPhase)
  | text (t : TextScan)
  deriving DecidableEq, Repr

/-- The scanner: the tokens read, last first, and where it is. -/
structure Lexer where
  done : List Token := []
  scan : Scan := .between
  deriving DecidableEq, Repr

namespace Lexer

/-- Reads a byte between two tokens. -/
def start? (done : List Token) (b : UInt8) : Option Lexer :=
  match Char.ofNat b.toNat with
  | ' ' | '\t' | '\n' | '\r' => some ⟨done, .between⟩
  | '[' => some ⟨.openArray :: done, .between⟩
  | ']' => some ⟨.closeArray :: done, .between⟩
  | '{' => some ⟨.openObject :: done, .between⟩
  | '}' => some ⟨.closeObject :: done, .between⟩
  | ',' => some ⟨.comma :: done, .between⟩
  | ':' => some ⟨.colon :: done, .between⟩
  | '"' => some ⟨done, .text {}⟩
  | 'n' => some ⟨done, .word [0x75, 0x6C, 0x6C] .null⟩
  | 't' => some ⟨done, .word [0x72, 0x75, 0x65] (.bool true)⟩
  | 'f' => some ⟨done, .word [0x61, 0x6C, 0x73, 0x65] (.bool false)⟩
  | '-' => some ⟨done, .number ['-'] .sign⟩
  | c => (NumberPhase.sign.next? c).map fun phase => ⟨done, .number [c] phase⟩

def step? (l : Lexer) (b : UInt8) : Option Lexer :=
  match l.scan with
  | .between => start? l.done b
  | .word [] token => start? (token :: l.done) b
  | .word [c] token => if b = c then some ⟨token :: l.done, .between⟩ else none
  | .word (c :: rest) token => if b = c then some ⟨l.done, .word rest token⟩ else none
  | .number literal phase =>
    match phase.next? (Char.ofNat b.toNat) with
    | some phase => some ⟨l.done, .number (Char.ofNat b.toNat :: literal) phase⟩
    | none =>
      if phase.complete then start? (.number literal.reverse :: l.done) b else none
  | .text t =>
    if t.escape = .outside ∧ b = 0x22 then some ⟨.text t.finish :: l.done, .between⟩
    else (t.step? b).map fun t => ⟨l.done, .text t⟩

def run? (l : Lexer) : List UInt8 → Option Lexer
  | [] => some l
  | b :: bs =>
    match l.step? b with
    | some l => l.run? bs
    | none => none

/-- The tokens read when no byte is left. -/
def finish? (l : Lexer) : Option (List Token) :=
  match l.scan with
  | .between => some l.done.reverse
  | .number literal phase =>
    if phase.complete then some (.number literal.reverse :: l.done).reverse else none
  | .word _ _ | .text _ => none

end Lexer

/-- The tokens of `bytes`. -/
def tokens? (bytes : List UInt8) : Option (List Token) :=
  match Lexer.run? {} bytes with
  | some l => l.finish?
  | none => none

end ChatRelay.Json
