/-! Media types: a type and a subtype of token characters, then parameters.  Spaces may stand only before
a parameter or after a quoted value, and a quoted value has at least one character.  Case does not
count. -/

namespace ChatRelay.Http.MediaType

/-- The characters of a token. -/
def isToken (c : Char) : Bool :=
  c.isAlphanum || "!#$%&'*+-.^_`|~".toList.contains c

/-- The characters of a quoted value. -/
def isQuoted (c : Char) : Bool :=
  ' ' ≤ c && c ≠ '\x7f'

/-- Where a reader of parameters is: before a name, in a name that may have begun, in a value that may
have begun, at the first character of a quoted value, in one, or after one. -/
inductive Place where
  | before
  | name
  | value (begun : Bool)
  | quoteOpen
  | quoted
  | afterQuote
  deriving DecidableEq, Repr

namespace Place

def step? : Place → Char → Option Place
  | before, c => if c = ' ' then some before else if isToken c then some name else none
  | name, c => if c = '=' then some (value false) else if isToken c then some name else none
  | value begun, c =>
    if c = '"' ∧ ¬ begun then some quoteOpen
    else if isToken c then some (value true)
    else if c = ';' ∧ begun then some before
    else none
  | quoteOpen, c => if isQuoted c then some quoted else none
  | quoted, c => if c = '"' then some afterQuote else if isQuoted c then some quoted else none
  | afterQuote, c => if c = ';' then some before else if c = ' ' then some afterQuote else none

/-- The parameters may end here. -/
def complete : Place → Bool
  | before | value _ | afterQuote => true
  | name | quoteOpen | quoted => false

end Place

/-- The text after the subtype is a list of parameters. -/
def areParameters : List Char → Bool
  | [] => true
  | ';' :: cs =>
    match cs.foldlM Place.step? Place.before with
    | some place => place.complete
    | none => false
  | _ => false

/-- A subtype is that of JSON, or has a suffix, after its last `+`, and one of its two parts is. -/
def isJsonSubtype (cs : List Char) : Bool :=
  let suffix := (cs.reverse.takeWhile (· ≠ '+')).reverse
  let stem := cs.take (cs.length - suffix.length - 1)
  if stem.isEmpty then cs = "json".toList
  else suffix = "json".toList || stem = "json".toList

/-- The media type is one of JSON. -/
def isJson (value : String) : Bool :=
  let cs := value.toList.map Char.toLower
  let main := cs.takeWhile isToken
  let rest := (cs.drop main.length).drop 1
  let sub := rest.takeWhile isToken
  (cs.drop main.length).head? = some '/' && main = "application".toList && isJsonSubtype sub &&
    areParameters (rest.drop sub.length)

end ChatRelay.Http.MediaType
