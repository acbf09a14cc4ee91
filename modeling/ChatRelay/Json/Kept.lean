import ChatRelay.Json.Record

/-! Values kept whole.  A reader that skips a value asks only for its grammar; one that keeps it for a
second look also asks that its texts are Unicode, that its numbers are integers of 64 bits or stay finite
as doubles, and that it nests at most `maxDepth` deep.  Where it fails, it may still have come to the end
of the value, so that it could go on behind it. -/

namespace ChatRelay.Json

/-- How far a reader that keeps a value gets: it keeps the value, it fails once it has come to the
value's end, or it fails inside. -/
inductive Keeping where
  | kept
  | passed
  | stuck
  deriving DecidableEq, Repr

/-! ### Finite numbers -/

/-- `n` rounded to 53 bits, a half to the even neighbour. -/
def round53 (n : Nat) : Nat :=
  let shift := n.log2 - 52
  let unit := 1 <<< shift
  let low := n / unit
  let twice := 2 * (n % unit)
  if unit < twice ∨ (unit = twice ∧ low % 2 = 1) then (low + 1) * unit else low * unit

/-- The least number that rounds to no finite double. -/
def overflowBound : Nat := 1 <<< 1024 - 1 <<< 970

/-- The digits of a number as far as 64 bits hold them, and the digits left over. -/
def absorb (n : Nat) : List Char → Nat × List Char
  | [] => (n, [])
  | c :: cs =>
    let next := n * 10 + (c.toNat - 48)
    if next < 2 ^ 64 then absorb next cs else (n, c :: cs)

/-- The value of an exponent's digits or, where it passes 31 bits, the digits that are left. -/
def exponent (n : Nat) : List Char → Except (List Char) Nat
  | [] => .ok n
  | c :: cs =>
    let next := n * 10 + (c.toNat - 48)
    if next < 2 ^ 31 then exponent next cs else .error cs

/-- Keeps `significand` times ten to the `power` if the double nearest to it is finite. -/
def keepScaled (significand : Nat) (power : Int) : Keeping :=
  if significand = 0 ∨ power < 0 ∨
      (power ≤ 308 ∧ round53 significand * round53 (Nat.pow 10 power.toNat) < overflowBound) then .kept
  else .passed

/-- Keeps a number as a double.  Its first digits make a significand of 64 bits, rounded once; further
digits before the point count towards the power of ten, and further digits after it count for nothing.
An exponent above 31 bits is not read to its end. -/
def keepDouble (literal : List Char) : Keeping :=
  let unsigned := if literal.head? = some '-' then literal.drop 1 else literal
  let whole := unsigned.takeWhile Char.isDigit
  let rest := unsigned.drop whole.length
  let fraction := if rest.head? = some '.' then (rest.drop 1).takeWhile Char.isDigit else []
  let rest := if rest.head? = some '.' then rest.drop (fraction.length + 1) else rest
  let (n, excess) := absorb 0 whole
  let (n, dropped) := absorb n fraction
  let power : Int := excess.length - (fraction.length - dropped.length : Nat)
  match rest with
  | [] => keepScaled n power
  | _ :: '-' :: digits =>
    match exponent 0 digits with
    | .ok e => keepScaled n (power - e)
    | .error _ => .kept
  | _ :: digits =>
    match exponent 0 (digits.dropWhile (· = '+')) with
    | .ok e => keepScaled n (power + e)
    | .error left => if n = 0 then .kept else if left.isEmpty then .passed else .stuck

/-! ### Kept values -/

/-- Keeps a text that is Unicode. -/
def keepText : Quoted → Keeping
  | .unicode _ => .kept
  | .faultyAtEnd => .passed
  | .faultyInside => .stuck

/-- Keeps values in turn.  Behind a value that is not kept, only the end of them all can follow. -/
def keepInTurn : List Keeping → Keeping
  | [] => .kept
  | [k] => k
  | .kept :: rest => keepInTurn rest
  | _ :: _ => .stuck

/-- How deep a kept value may nest. -/
def maxDepth : Nat := 127

/-- Keeps a value that nests at most `depth` deep. -/
def keep : Nat → Json → Keeping
  | _, null | _, bool _ => .kept
  | _, number literal =>
    if (int64? (number literal)).isSome then .kept else keepDouble literal
  | _, text value => keepText value
  | 0, array _ | 0, object _ => .stuck
  | depth + 1, array items => keepInTurn (items.map (keep depth))
  | depth + 1, object members =>
    keepInTurn (members.map fun (key, j) => if keepText key = .kept then keep depth j else .stuck)

def isKept (j : Json) : Bool :=
  j.keep maxDepth = .kept

end ChatRelay.Json
