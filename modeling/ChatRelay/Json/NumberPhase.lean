/-! The grammar of JSON numbers, one character at a time: an optional minus sign, digits of which the first
is no zero unless it is the only one, an optional fraction, and an optional exponent. -/

namespace ChatRelay.Json

/-- How much of a number is read. -/
inductive NumberPhase where
  | sign
  | zero
  | whole
  | point
  | fraction
  | mark
  | markSign
  | exponent
  deriving DecidableEq, Repr

namespace NumberPhase

/-- The number may end here. -/
def complete : NumberPhase → Bool
  | zero | whole | fraction | exponent => true
  | sign | point | mark | markSign => false

/-- The phase after `c`, if the number goes on with `c`. -/
def next? (p : NumberPhase) (c : Char) : Option NumberPhase :=
  match p with
  | sign => if c = '0' then some zero else if c.isDigit then some whole else none
  | zero => if c = '.' then some point else if c = 'e' ∨ c = 'E' then some mark else none
  | whole =>
    if c.isDigit then some whole
    else if c = '.' then some point
    else if c = 'e' ∨ c = 'E' then some mark
    else none
  | point => if c.isDigit then some fraction else none
  | fraction =>
    if c.isDigit then some fraction else if c = 'e' ∨ c = 'E' then some mark else none
  | mark =>
    if c.isDigit then some exponent else if c = '+' ∨ c = '-' then some markSign else none
  | markSign | exponent => if c.isDigit then some exponent else none

end NumberPhase

end ChatRelay.Json
