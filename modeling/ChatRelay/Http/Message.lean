import ChatRelay.Wire

/-! HTTP requests and responses.  The names of a request's headers are compared without regard to case;
the names of a response's headers are in lower case. -/

namespace ChatRelay.Http

/-- A request.  `upgradable` says that its connection can be turned into a live one. -/
structure Request where
  method : String := "GET"
  uri : String
  headers : List (String × String) := []
  body : List UInt8 := []
  upgradable : Bool := false

namespace Request

/-- The part of the target that counts, which ends at a `#`. -/
def target (r : Request) : List Char :=
  r.uri.toList.takeWhile (· ≠ '#')

/-- The path with the query string, which follow the scheme and the authority where these are given. -/
def resource (r : Request) : List Char :=
  let afterScheme := r.target.dropWhile fun c => c ≠ ':' ∧ c ≠ '/'
  if "://".toList <+: afterScheme then
    (afterScheme.drop 3).dropWhile fun c => c ≠ '/' ∧ c ≠ '?'
  else r.target

/-- The path, as it is written; an empty one is the root. -/
def path (r : Request) : String :=
  match r.resource.takeWhile (· ≠ '?') with
  | [] => "/"
  | cs => String.ofList cs

/-- The query string, which follows the first `?`. -/
def query (r : Request) : String :=
  String.ofList ((r.resource.dropWhile (· ≠ '?')).drop 1)

/-- The first value of a header, whose name is given in lower case. -/
def header? (r : Request) (name : String) : Option String :=
  (r.headers.find? fun h => h.1.map Char.toLower = name).map (·.2)

end Request

/-- The characters that a header's value must have to be text: printable ASCII and the tab. -/
def isHeaderText (value : String) : Bool :=
  value.toList.all fun c => c = '\t' || (' ' ≤ c && c ≤ '~')

/-- A response.  `upgrade` names the user whose live connection it opens. -/
structure Response where
  status : Nat
  headers : List (String × String) := []
  body : String := ""
  upgrade : Option String := none
  deriving DecidableEq, Repr

namespace Response

def text (status : Nat) (body : String) : Response where
  status
  headers := [("content-type", "text/plain; charset=utf-8")]
  body

def json {α : Type} [Wire α] (status : Nat) (a : α) : Response where
  status
  headers := [("content-type", "application/json")]
  body := Wire.encode a

def empty (status : Nat) : Response where
  status

def withHeader (r : Response) (name value : String) : Response :=
  { r with headers := r.headers ++ [(name, value)] }

end Response

end ChatRelay.Http
