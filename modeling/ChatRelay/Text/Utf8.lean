/-! Text as bytes in UTF-8.  `string?` reads exactly the bytes of a text; `lossy` reads any bytes,
with U+FFFD in place of each longest run that begins a character and does not end one, and of each
byte that begins none. -/

namespace ChatRelay.Text.Utf8

def bytes (s : String) : List UInt8 :=
  s.toByteArray.data.toList

/-- The text whose bytes these are. -/
def string? (bs : List UInt8) : Option String :=
  String.fromUTF8? bs.toByteArray

/-! ### Reading any bytes -/

/-- A character of which some bytes are read: its bits so far, how many bytes it lacks, and the
bounds of the next one. -/
structure Begun where
  code : Nat
  lacking : Nat
  low : UInt8
  high : UInt8
  deriving DecidableEq, Repr

/-- What a reader of any bytes has read: whole characters, last first, and a begun one. -/
structure Lossy where
  done : List Char := []
  begun : Option Begun := none

/-- The character that stands for bytes that are no text. -/
def replacement : Char := Char.ofNat 0xFFFD

namespace Lossy

/-- Reads a byte where a character begins. -/
def start (done : List Char) (b : UInt8) : Lossy :=
  let begin (bits : UInt8) (lacking : Nat) (low high : UInt8) : Lossy :=
    ⟨done, some ⟨bits.toNat, lacking, low, high⟩⟩
  if b < 0x80 then ⟨Char.ofNat b.toNat :: done, none⟩
  else if b < 0xC2 then ⟨replacement :: done, none⟩
  else if b < 0xE0 then begin (b - 0xC0) 1 0x80 0xBF
  else if b = 0xE0 then begin 0 2 0xA0 0xBF
  else if b = 0xED then begin (b - 0xE0) 2 0x80 0x9F
  else if b < 0xF0 then begin (b - 0xE0) 2 0x80 0xBF
  else if b = 0xF0 then begin 0 3 0x90 0xBF
  else if b < 0xF4 then begin (b - 0xF0) 3 0x80 0xBF
  else if b = 0xF4 then begin (b - 0xF0) 3 0x80 0x8F
  else ⟨replacement :: done, none⟩

def step (r : Lossy) (b : UInt8) : Lossy :=
  match r.begun with
  | none => start r.done b
  | some p =>
    if p.low ≤ b ∧ b ≤ p.high then
      let code := p.code * 64 + (b - 0x80).toNat
      if p.lacking = 1 then ⟨Char.ofNat code :: r.done, none⟩
      else ⟨r.done, some ⟨code, p.lacking - 1, 0x80, 0xBF⟩⟩
    else start (replacement :: r.done) b

/-- The text read when no byte is left. -/
def finish (r : Lossy) : String :=
  String.ofList (if r.begun.isSome then replacement :: r.done else r.done).reverse

end Lossy

/-- The text of any bytes. -/
def lossy (bs : List UInt8) : String :=
  (bs.foldl Lossy.step {}).finish

end ChatRelay.Text.Utf8
