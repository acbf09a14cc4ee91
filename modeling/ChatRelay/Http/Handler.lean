import ChatRelay.Http.Error
import ChatRelay.Http.MediaType
import ChatRelay.Http.Query
import ChatRelay.Http.Route
import ChatRelay.Http.Upgrade
import ChatRelay.Relay.Browse
import ChatRelay.Relay.Post

/-! The handlers of the application.  Each acts for the user that it is given, and takes nothing about the
sender from the request. -/

namespace ChatRelay.Http

/-- What the application is set up with. -/
structure Settings where
  secret : String
  historyLimit : Nat
  errorAcks : Bool := false

/-- What a request is given: what its message would be, and an id of its own. -/
structure Arrival extends Fresh where
  requestId : String

/-- The most bytes that a body may have. -/
def bodyLimit : Nat := 2097152

/-- The value of a JSON body. -/
def body? {α : Type} [Wire α] (req : Request) : Except Error α :=
  match req.header? "content-type" with
  | some value =>
    if isHeaderText value ∧ MediaType.isJson value ∧ req.body.length ≤ bodyLimit then
      match Wire.decode? req.body with
      | some a => .ok a
      | none => .error (.badRequest "invalid request")
    else .error (.badRequest "invalid request")
  | none => .error (.badRequest "invalid request")

/-- The response to an operation of the relay. -/
def answer {α : Type} (op : Operation α) (respond : α → Response) : Activity Response := do
  match ← op.run with
  | .ok a => return respond a
  | .error cause => return (Error.relay cause).response

/-- A value that must be given and not be empty. -/
def required (name : String) : Option String → Except Error String
  | some value => if value = "" then .error (.badRequest ("missing " ++ name)) else .ok value
  | none => .error (.badRequest ("missing " ++ name))

/-- Whether the store answers. -/
def health : Activity Response := do
  match ← (Operation.call .ping).run with
  | .ok _ => return .text 200 "ok"
  | .error _ => return .text 503 "unavailable"

/-- The history of a channel. -/
def getHistory (settings : Settings) (user : String) (req : Request) : Activity Response :=
  match HistoryQuery.ofQuery req.query with
  | .error e => return .text 400 e.message
  | .ok q =>
    match required "channel_id" q.channel with
    | .error e => return e.response
    | .ok channel => answer (history settings.historyLimit user channel q.limit q.before) (.json 200)

def getChannels (user : String) : Activity Response :=
  answer (listChannels user) fun channels => .json 200 (ChannelList.mk channels)

def getMembers (user : String) (req : Request) : Activity Response :=
  match value? "channel_id" req.query with
  | .error e => return .text 400 e.message
  | .ok q =>
    match required "channel_id" q with
    | .error e => return e.response
    | .ok channel => answer (listMembers user channel) fun members => .json 200 (MemberList.mk members)

def postSend (user : String) (req : Request) (fresh : Fresh) : Activity Response :=
  match (body? req : Except Error SendRequest) with
  | .error e => return e.response
  | .ok r => answer (post user r fresh) fun m => .json 200 (SendReply.mk m.id.toString true)

def postDirect (user : String) (req : Request) : Activity Response :=
  match (body? req : Except Error DirectRequest) with
  | .error e => return e.response
  | .ok r =>
    match required "target_user_id" (some r.target) with
    | .error e => return e.response
    | .ok target => answer (createDirect user target) fun channel => .json 200 (DirectReply.mk channel)

/-- Answers a request of a user on a route that accepts its method. -/
def handle (settings : Settings) (route : Route) (user : String) (req : Request) (fresh : Fresh) :
    Activity Response :=
  match route with
  | .health => health
  | .ws => return upgrade user req
  | .history => getHistory settings user req
  | .send => postSend user req fresh
  | .channels => getChannels user
  | .channelMembers => getMembers user req
  | .dm => postDirect user req

end ChatRelay.Http
