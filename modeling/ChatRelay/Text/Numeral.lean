/-! Numerals in decimal digits, read into a range.  An unsigned numeral may have a plus sign, a signed
one either sign, and at least one digit follows.  The first fault from the left decides the error: a
character that is no digit, or the digit that takes the value out of range. -/

namespace ChatRelay.Text

/-- Why a text is no numeral of a range. -/
inductive NumeralError where
  | empty
  | invalidDigit
  | tooLarge
  | tooSmall
  deriving DecidableEq, Repr

def NumeralError.message : NumeralError → String
  | empty => "cannot parse integer from empty string"
  | invalidDigit => "invalid digit found in string"
  | tooLarge => "number too large to fit in target type"
  | tooSmall => "number too small to fit in target type"

namespace Numeral

def digit? (c : Char) : Option Nat :=
  if '0' ≤ c ∧ c ≤ '9' then some (c.toNat - 48) else none

/-- Reads digits after a value of `n`; a value above `bound` is the fault `excess`. -/
def digits (bound : Nat) (excess : NumeralError) (n : Nat) : List Char → Except NumeralError Nat
  | [] => .ok n
  | c :: cs =>
    match digit? c with
    | none => .error .invalidDigit
    | some d => if bound < n * 10 + d then .error excess else digits bound excess (n * 10 + d) cs

/-- Reads one digit or more. -/
def magnitude (bound : Nat) (excess : NumeralError) : List Char → Except NumeralError Nat
  | [] => .error .invalidDigit
  | cs => digits bound excess 0 cs

/-- Reads an unsigned numeral of at most `bound`. -/
def natural (bound : Nat) : List Char → Except NumeralError Nat
  | [] => .error .empty
  | '+' :: cs => magnitude bound .tooLarge cs
  | cs => magnitude bound .tooLarge cs

/-- Reads a signed numeral of 64 bits. -/
def int64 : List Char → Except NumeralError Int64
  | [] => .error .empty
  | '+' :: cs => (magnitude (Int64.size / 2 - 1) .tooLarge cs).map Int64.ofNat
  | '-' :: cs => (magnitude (Int64.size / 2) .tooSmall cs).map fun n => Int64.ofInt (-n)
  | cs => (magnitude (Int64.size / 2 - 1) .tooLarge cs).map Int64.ofNat

end Numeral

end ChatRelay.Text
