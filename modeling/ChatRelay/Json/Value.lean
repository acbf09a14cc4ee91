import ChatRelay.Json.Lexer

/-! JSON values and their text.  `Json.tokens` writes a value as tokens and `ofTokens?` reads it back;
the reader keeps its open arrays and objects on a stack of its own, so that no depth of nesting and no
length is too much for it. -/

namespace ChatRelay

/-- A JSON value.  The members of an object keep their order, and a key may occur twice. -/
inductive Json where
  | null
  | bool (value : Bool)
  | number (literal : List Char)
  | text (value : Json.Quoted)
  | array (items : List Json)
  | object (members : List (Json.Quoted × Json))

namespace Json

instance : Inhabited Json := ⟨null⟩

/-- A key with its value. -/
abbrev Member := Quoted × Json

/-! ### Writing -/

mutual

/-- The tokens of a value. -/
def tokens : Json → List Token
  | null => [.null]
  | bool value => [.bool value]
  | number literal => [.number literal]
  | text value => [.text value]
  | array items => .openArray :: itemTokens items ++ [.closeArray]
  | object members => .openObject :: memberTokens members ++ [.closeObject]

def itemTokens : List Json → List Token
  | [] => []
  | [j] => j.tokens
  | j :: rest => j.tokens ++ .comma :: itemTokens rest

def memberTokens : List (Quoted × Json) → List Token
  | [] => []
  | [(key, j)] => .text key :: .colon :: j.tokens
  | (key, j) :: rest => .text key :: .colon :: j.tokens ++ .comma :: memberTokens rest

end

/-- The text of a value, without white space. -/
def render (j : Json) : String :=
  String.ofList (j.tokens.flatMap Token.spell)

/-! ### Reading -/

/-- An open array or object around the value that is being read: what stands before that value, last
first. -/
inductive Context where
  | item (before : List Json)
  | member (before : List Member) (key : Quoted)

/-- What a reader expects next, inside its open arrays and objects, innermost first. -/
inductive Reader where
  | value (around : List Context)
  | itemOrClose (around : List Context)
  | keyOrClose (around : List Context)
  | key (before : List Member) (around : List Context)
  | colon (before : List Member) (key : Quoted) (around : List Context)
  | after (j : Json) (around : List Context)

namespace Reader

/-- Reads the first token of a value. -/
def begin? (around : List Context) : Token → Option Reader
  | .null => some (.after .null around)
  | .bool b => some (.after (.bool b) around)
  | .number literal => some (.after (.number literal) around)
  | .text s => some (.after (.text s) around)
  | .openArray => some (.itemOrClose around)
  | .openObject => some (.keyOrClose around)
  | _ => none

def step? : Reader → Token → Option Reader
  | .value around, t => begin? around t
  | .itemOrClose around, .closeArray => some (.after (.array []) around)
  | .itemOrClose around, t => begin? (.item [] :: around) t
  | .keyOrClose around, .closeObject => some (.after (.object []) around)
  | .keyOrClose around, .text k => some (.colon [] k around)
  | .key before around, .text k => some (.colon before k around)
  | .colon before k around, .colon => some (.value (.member before k :: around))
  | .after j (.item before :: around), .comma => some (.value (.item (j :: before) :: around))
  | .after j (.item before :: around), .closeArray =>
    some (.after (.array (j :: before).reverse) around)
  | .after j (.member before k :: around), .comma => some (.key ((k, j) :: before) around)
  | .after j (.member before k :: around), .closeObject =>
    some (.after (.object ((k, j) :: before).reverse) around)
  | _, _ => none

def run? (r : Reader) : List Token → Option Reader
  | [] => some r
  | t :: ts =>
    match r.step? t with
    | some r => r.run? ts
    | none => none

/-- The value read when no token is left. -/
def finish? : Reader → Option Json
  | .after j [] => some j
  | _ => none

end Reader

/-- The value that `ts` are the tokens of. -/
def ofTokens? (ts : List Token) : Option Json :=
  match (Reader.value []).run? ts with
  | some r => r.finish?
  | none => none

/-- The value of a JSON text. -/
def parse? (bytes : List UInt8) : Option Json :=
  match tokens? bytes with
  | some ts => ofTokens? ts
  | none => none

/-! ### Building values -/

def ofString (s : String) : Json := text (.unicode s)

def ofInt (n : Int) : Json := number (toString n).toList

def ofMembers (members : List (String × Json)) : Json :=
  object (members.map fun (key, j) => (.unicode key, j))

end Json

end ChatRelay
