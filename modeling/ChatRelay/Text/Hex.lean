/-! Hexadecimal digits: written in lower case, read in either case. -/

namespace ChatRelay.Text.Hex

def digit (n : Fin 16) : Char :=
  if n < 10 then Char.ofNat (n + 48) else Char.ofNat (n + 87)

/-- The value of a digit in either case. -/
def value? (c : Char) : Option (Fin 16) :=
  if '0' ≤ c ∧ c ≤ '9' then some (Fin.ofNat 16 (c.toNat - 48))
  else if 'a' ≤ c ∧ c ≤ 'f' then some (Fin.ofNat 16 (c.toNat - 87))
  else if 'A' ≤ c ∧ c ≤ 'F' then some (Fin.ofNat 16 (c.toNat - 55))
  else none

theorem value?_digit (n : Fin 16) : value? (digit n) = some n := by
  revert n; decide

/-- The digits of `n`, most significant first and without leading zeros. -/
def ofNat (n : Nat) : List Char :=
  Nat.toDigits 16 n

end ChatRelay.Text.Hex
