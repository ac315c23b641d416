import SalesDesk.Conversation.Session
import SalesDesk.Service.Path
import SalesDesk.Service.Sample

/-! The session behind a web service: requests, and what they answer. -/
namespace SalesDesk.Service

inductive Body where
  | nothing
  | value (v : Value)
  | raw (text type : String)

structure Request where
  method : String
  path : String
  body : Body := .nothing

structure Response where
  status : Nat
  body : Option Value := none

inductive Route
  | showData | loadData | chat | clearChat | showContext | showFile
deriving DecidableEq

def routes : List (String × List (String × Route)) := [
  ("/api/data", [("GET", .showData), ("POST", .loadData)]),
  ("/api/chat", [("POST", .chat)]),
  ("/api/chat/clear", [("POST", .clearChat)]),
  ("/api/context", [("GET", .showContext)])]

def filesPath : String := "/static/"

/-- The methods of a path. A file has a name that does not start with a slash. -/
def methodsOf? (path : List Char) : Option (List (String × Route)) :=
  match routes.lookup (String.ofList path) with
  | some methods => some methods
  | none =>
    let name := path.drop filesPath.length
    if filesPath.toList.isPrefixOf path && !name.isEmpty && name.head? != some '/' then
      some [("GET", .showFile)]
    else none

def upper (s : String) : String := String.ofList (s.toList.map Char.toUpper)

def isJsonType (type : String) : Bool :=
  let name := Text.lower (Text.strip (String.ofList (type.toList.takeWhile (· != ';'))))
  name == "application/json" ||
    ("application/".toList.isPrefixOf name.toList && "+json".toList.isSuffixOf name.toList)

/-- The text without the mark that may stand before its first character. -/
def dropMark (text : String) : String :=
  match text.toList with
  | '\ufeff' :: rest => String.ofList rest
  | _ => text

/-- The JSON value of a body, or the status that says why there is none. -/
def Body.read : Body → Except Nat Value
  | .nothing => .error 415
  | .value v => .ok v
  | .raw text type =>
    if !isJsonType type then .error 415
    else
      match Json.read? (dropMark text) with
      | some v => .ok v
      | none => .error 400

/-- An object of a body; whatever is empty counts as an empty object. -/
def fieldsOf? (v : Value) : Option (Entries Value) :=
  match v with
  | .object fields => some fields
  | v => if v.holdsSomething then none else some []

def ok (fields : Entries Value) : Response := ⟨200, some (.object fields)⟩

def problem (status : Nat) (reason : String) : Response :=
  ⟨status, some (.object [("error", .text reason)])⟩

def broken : Response := ⟨500, none⟩

def showData (s : Session) : Response :=
  let range : Value := match dateRange s.dataset.records with
    | none => .null
    | some (first, last) => .list [.text first.iso, .text last.iso]
  ok [
    ("data", .list (s.dataset.records.map fun r => .object r.toFields)),
    ("total", .int s.dataset.size), ("metrics", .object s.dataset.metrics.toFields),
    ("range", range)]

/-- Load the rows of a body. Rows that break the rules for records are refused. -/
def loadData (s : Session) (v : Value) (today : Date) : Response × Session :=
  match fieldsOf? v with
  | none => (broken, s)
  | some fields =>
    let data := (Value.field? "data" fields).getD (.list [])
    let metrics := (Value.field? "metrics" fields).getD .null
    let loaded := do
      let rows ← Intake.rowsOf data
      s.load rows metrics today
    match loaded with
    | .ok next => (ok [("total", .int next.dataset.size)], next)
    | .error (.badRow index fault) => (problem 400 (Fault.badRow index fault).message, s)
    | .error _ => (broken, s)

def responseFields (r : SalesDesk.Response) : Entries Value := [
  ("answer", .text r.answer), ("source", .text r.source.name),
  ("notice", (r.notice.map Value.text).getD .null),
  ("context", .object (r.context.toFields)),
  ("metadata", .object [("records", .int r.records)])]

def chat (s : Session) (v : Value) : Response × Session :=
  match (fieldsOf? v).map fun fields => (Value.field? "message" fields).getD (.text "") with
  | some (.text message) =>
    let message := Text.strip message
    if message.isEmpty then (problem 400 "No message provided", s)
    else
      match s.ask message with
      | (.answered r, next) => (ok (responseFields r), next)
      | (.failed reason, next) => (problem 500 reason, next)
  | _ => (broken, s)

def showContext (s : Session) : Response := ok [
  ("context", .object (s.context.toFields)),
  ("history", .int s.history.length), ("llm", .bool s.assistant.isSome)]

def serve (s : Session) (route : Route) (body : Body) (today : Date) : Response × Session :=
  let withBody (act : Value → Response × Session) : Response × Session :=
    match body.read with
    | .ok v => act v
    | .error status => (⟨status, none⟩, s)
  match route with
  | .showData => (showData s, s)
  | .showContext => (showContext s, s)
  | .showFile => (⟨404, none⟩, s)
  | .clearChat => (ok [("ok", .bool true)], s.clear)
  | .loadData => withBody (loadData s · today)
  | .chat => withBody (chat s)

/-- What a method does on a path with the given methods: paths that are read also answer without a
body, and every path tells its methods. -/
def serveMethod? (s : Session) (methods : List (String × Route)) (method : String) (body : Body)
    (today : Date) : Option (Response × Session) :=
  match methods.lookup method, methods.lookup "GET" with
  | some route, _ => some (serve s route body today)
  | none, some route =>
    if method == "HEAD" then
      let (response, s) := serve s route body today
      some ({ response with body := none }, s)
    else if method == "OPTIONS" then some (⟨200, none⟩, s)
    else none
  | none, none => if method == "OPTIONS" then some (⟨200, none⟩, s) else none

/-- Answer a request. A path that is known only after pairs of slashes are merged is moved there. -/
def handle (s : Session) (r : Request) (today : Date := .standIn) : Response × Session :=
  let method := upper r.method
  let path := lookupPath r.path
  let exact := methodsOf? path
  let merged := methodsOf? (mergeSlashes path)
  let answer (methods : Option (List (String × Route))) : Option (Response × Session) :=
    methods.bind fun m => serveMethod? s m method r.body today
  match answer exact with
  | some response => response
  | none =>
    if (answer merged).isSome then (⟨308, none⟩, s)
    else (⟨if exact.isSome || merged.isSome then 405 else 404, none⟩, s)

def start : Except Fault Session := do return { dataset := ← sample }

/-- The model that the service uses under a key, if the key can be used. -/
def modelFor? (key : Option String) (settings : Settings) : Option Model :=
  (Model.make key settings).toOption

end SalesDesk.Service
