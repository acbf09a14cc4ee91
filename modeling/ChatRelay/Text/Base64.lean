/-! Base64, in the standard alphabet with padding and in the alphabet that is safe in links, without
padding.  Three bytes are four digits; a last group of one or two bytes is two or three digits, and
the standard alphabet fills it up with `=`.  `decode?` reads only what `encode` writes: the bits that
a short last group does not need must be zero, and padding must be exact. -/

namespace ChatRelay.Text.Base64

/-- The two alphabets: they differ in their last two digits and in whether they pad. -/
inductive Alphabet where
  | standard
  | urlSafe
  deriving DecidableEq, Repr

namespace Alphabet

def digit62 : Alphabet → Char
  | standard => '+'
  | urlSafe => '-'

def digit63 : Alphabet → Char
  | standard => '/'
  | urlSafe => '_'

/-- The digit for `n`, which is below 64. -/
def digit (a : Alphabet) (n : Nat) : Char :=
  if n < 26 then Char.ofNat (n + 65)
  else if n < 52 then Char.ofNat (n + 71)
  else if n < 62 then Char.ofNat (n - 4)
  else if n = 62 then a.digit62
  else a.digit63

def value? (a : Alphabet) (c : Char) : Option Nat :=
  if 'A' ≤ c ∧ c ≤ 'Z' then some (c.toNat - 65)
  else if 'a' ≤ c ∧ c ≤ 'z' then some (c.toNat - 71)
  else if '0' ≤ c ∧ c ≤ '9' then some (c.toNat + 4)
  else if c = a.digit62 then some 62
  else if c = a.digit63 then some 63
  else none

/-- What fills up a last group that lacks `n` digits. -/
def padding : Alphabet → Nat → List Char
  | standard, n => List.replicate n '='
  | urlSafe, _ => []

/-! ### Groups -/

/-- The four digits of three bytes. -/
def group (a : Alphabet) (x y z : UInt8) : Char × Char × Char × Char :=
  (a.digit (x.toNat / 4), a.digit (x.toNat % 4 * 16 + y.toNat / 16),
    a.digit (y.toNat % 16 * 4 + z.toNat / 64), a.digit (z.toNat % 64))

/-- The three bytes of four digits. -/
def group? (a : Alphabet) (c d e f : Char) : Option (UInt8 × UInt8 × UInt8) :=
  match a.value? c, a.value? d, a.value? e, a.value? f with
  | some c, some d, some e, some f =>
    some (UInt8.ofNat (c * 4 + d / 16), UInt8.ofNat (d % 16 * 16 + e / 4),
      UInt8.ofNat (e % 4 * 64 + f))
  | _, _, _, _ => none

/-- The last group: fewer than three bytes, written with their padding. -/
def tail (a : Alphabet) : List UInt8 → List Char
  | [] => []
  | [x] => a.digit (x.toNat / 4) :: a.digit (x.toNat % 4 * 16) :: a.padding 2
  | x :: y :: _ =>
    a.digit (x.toNat / 4) :: a.digit (x.toNat % 4 * 16 + y.toNat / 16) ::
      a.digit (y.toNat % 16 * 4) :: a.padding 1

/-- The byte of a last group of two digits, whose low four bits must be zero. -/
def single? (a : Alphabet) (c d : Char) : Option (List UInt8) :=
  match a.value? c, a.value? d with
  | some c, some d => if d % 16 = 0 then some [UInt8.ofNat (c * 4 + d / 16)] else none
  | _, _ => none

/-- The bytes of a last group of three digits, whose low two bits must be zero. -/
def double? (a : Alphabet) (c d e : Char) : Option (List UInt8) :=
  match a.value? c, a.value? d, a.value? e with
  | some c, some d, some e =>
    if e % 4 = 0 then
      some [UInt8.ofNat (c * 4 + d / 16), UInt8.ofNat (d % 16 * 16 + e / 4)]
    else none
  | _, _, _ => none

/-- The bytes of a last group. -/
def tail? (a : Alphabet) : List Char → Option (List UInt8)
  | [] => some []
  | [_] => none
  | c :: d :: rest =>
    if rest = a.padding 2 then a.single? c d
    else match rest with
      | [] => none
      | e :: rest => if rest = a.padding 1 then a.double? c d e else none

end Alphabet

/-! ### Whole texts -/

/-- The digits of `bytes` after those in `out`, which is in reverse. -/
def encodeOnto (a : Alphabet) (out : List Char) : List UInt8 → List Char
  | x :: y :: z :: rest =>
    let (c, d, e, f) := a.group x y z
    encodeOnto a (f :: e :: d :: c :: out) rest
  | rest => out.reverse ++ a.tail rest

def encode (a : Alphabet) (bytes : List UInt8) : String :=
  String.ofList (encodeOnto a [] bytes)

/-- The bytes of a text after those in `out`, which is in reverse. -/
def decodeOnto (a : Alphabet) (out : List UInt8) : List Char → Option (List UInt8)
  | c :: d :: e :: f :: rest =>
    match a.group? c d e f with
    | some (x, y, z) => decodeOnto a (z :: y :: x :: out) rest
    | none => (a.tail? (c :: d :: e :: f :: rest)).map (out.reverse ++ ·)
  | rest => (a.tail? rest).map (out.reverse ++ ·)

/-- The bytes that `text` is the text of. -/
def decode? (a : Alphabet) (text : String) : Option (List UInt8) :=
  decodeOnto a [] text.toList

end ChatRelay.Text.Base64
