import ChatRelay.Http.Error
import ChatRelay.Http.Query
import ChatRelay.Relay.Browse
import ChatRelay.Token.Verify

/-! Who sends a request.  The bearer token stands in the `Authorization` header, or else in the query
string, for clients that cannot set headers.  Of a token's claims only the name counts; the user's id is
looked up in the directory. -/

namespace ChatRelay.Http

/-- The token of an `Authorization` header of the form `Bearer <token>`. -/
def bearerOf? (value : String) : Option String :=
  let cs := value.toList
  if isHeaderText value ∧ (cs.take 7).map Char.toLower = "bearer ".toList then
    some (String.ofList ((cs.drop 7).dropWhile fun c => c = ' ' ∨ c = '\t'))
  else none

/-- The token of a query string, which must be given once and not be empty. -/
def queryToken? (query : String) : Option String :=
  match value? "token" query with
  | .ok (some token) => if token = "" then none else some token
  | _ => none

def bearerToken? (req : Request) : Option String :=
  match req.header? "authorization" >>= bearerOf? with
  | some token => some token
  | none => queryToken? req.query

/-- The id of the user who sends a request, at second `now`. -/
def authenticate (secret : String) (now : Nat) (req : Request) : ExceptT Error Activity String :=
  match bearerToken? req >>= Token.verify? secret now with
  | none => throw .unauthenticated
  | some claims => ExceptT.mk do
    match ← (userIdFor claims.username).run with
    | .ok (some user) => return .ok user
    | .ok none => return .error .unauthenticated
    | .error cause => return .error (.relay cause)

end ChatRelay.Http
