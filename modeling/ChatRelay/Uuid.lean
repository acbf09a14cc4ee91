import ChatRelay.Text.Hex

/-! Identifiers of 128 bits, held as their 32 hexadecimal digits.  They are written in lower case in
five groups joined by hyphens, and read in either case: as written, as 32 digits in a row, in braces,
or after `urn:uuid:`. -/

namespace ChatRelay

/-- An identifier: its hexadecimal digits, most significant first. -/
structure Uuid where
  digits : List (Fin 16)
  length_digits : digits.length = 32
  deriving DecidableEq

namespace Uuid

/-- `digits` as an identifier, if there are 32. -/
def ofDigits? (digits : List (Fin 16)) : Option Uuid :=
  if h : digits.length = 32 then some ⟨digits, h⟩ else none

def zero : Uuid := ⟨List.replicate 32 ⟨0, by decide⟩, by simp⟩

instance : Inhabited Uuid := ⟨zero⟩

/-! ### Writing -/

/-- The digits from `first` on, `count` of them, as text. -/
def slice (u : Uuid) (first count : Nat) : List Char :=
  ((u.digits.drop first).take count).map Text.Hex.digit

/-- The characters of the written form. -/
def chars (u : Uuid) : List Char :=
  u.slice 0 8 ++ '-' :: u.slice 8 4 ++ '-' :: u.slice 12 4 ++ '-' :: u.slice 16 4 ++
    '-' :: u.slice 20 12

/-- The written form: groups of 8, 4, 4, 4 and 12 digits joined by hyphens. -/
def toString (u : Uuid) : String :=
  String.ofList u.chars

instance : ToString Uuid := ⟨toString⟩

/-! ### Reading -/

/-- Reads 32 digits in a row. -/
def ofPlain? (cs : List Char) : Option Uuid :=
  cs.mapM Text.Hex.value? >>= ofDigits?

/-- Reads five groups joined by hyphens. -/
def ofHyphened? (cs : List Char) : Option Uuid :=
  let hyphens := [8, 13, 18, 23].map fun i => cs[i]?
  if cs.length = 36 ∧ hyphens.all (· = some '-') then
    ofPlain? (cs.take 8 ++ (cs.drop 9).take 4 ++ (cs.drop 14).take 4 ++ (cs.drop 19).take 4 ++
      cs.drop 24)
  else none

/-- The text before an identifier in the `urn` form, in lower case. -/
def urn : List Char := "urn:uuid:".toList

/-- Reads any of the four forms. -/
def ofChars? (cs : List Char) : Option Uuid :=
  if cs.length = 32 then ofPlain? cs
  else if cs.length = 36 then ofHyphened? cs
  else if cs.length = 38 ∧ cs.head? = some '{' ∧ cs.getLast? = some '}' then
    ofHyphened? ((cs.drop 1).take 36)
  else if cs.length = 45 ∧ (cs.take 9).map Char.toLower = urn then ofHyphened? (cs.drop 9)
  else none

def ofString? (s : String) : Option Uuid :=
  ofChars? s.toList

end Uuid

end ChatRelay
