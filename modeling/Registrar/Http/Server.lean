import Registrar.Http.Message
import Registrar.Http.Percent
import Registrar.Http.Route
import Registrar.Service.Basic

/-!
# The server

A server answers requests from its service. What is wrong with a request is found in this order:
the announced length of its body, its path, its method, the text of the parts of its path, the
length of its body where that is needed, and then the resource, the key, the body and all that the
service looks at. A request that only asks what may be asked is always answered well.

See section 19 of the specification.

Out of scope: the headers of a response, those for other origins among them, and notes in a log.
-/

namespace Registrar.Http

/-- A service with the path it is found under. -/
structure Server where
  service : Service
  /-- The path that resources are below. -/
  pathPrefix : String
  /-- How many bytes a body may have. -/
  maxBody : Nat

/-- What an operation is called with. -/
structure Call where
  resource : String
  /-- The key in the path, where there is one. -/
  id : String
  params : List (String × String)
  body : List UInt8

/-- What an operation answers with. -/
structure Endpoint where
  /-- Whether the body of a request is looked at. -/
  readsBody : Bool
  run : Call → Action Response

namespace Server

/-- The key that a text stands for, in the resource of a schema. -/
def parseId (s : Schema) (text : String) : Except Failure Value :=
  match s.keyField.kind with
  | .string => .ok (.string text)
  | kind =>
    match Value.parse? kind text with
    | some id => .ok id
    | none => .error (.badRequest (.invalidId text))

/-- The document in the body of a request for the resource of a schema. -/
def parseBody (s : Schema) (body : List UInt8) : Except Failure Json :=
  match (Text.Utf8.decode? body).bind Json.parse? with
  | some j => .ok j
  | none => .error (.decode s.collection .malformed)

/-- The answer with a document. -/
def success (status : Nat) (data : Json) : Response :=
  ⟨status, .document (.ofPairs [("data", data)])⟩

/-- The answer with some documents. -/
def successMany (rows : List Json) : Response :=
  ⟨200, .document (.ofPairs [("data", .array rows),
    ("meta", .ofPairs [("count", .nat rows.length)])])⟩

/-! ## Endpoints -/

/-- List the rows of a resource. -/
def list (sv : Service) : Endpoint where
  readsBody := false
  run c := do return successMany (← sv.list c.resource c.params)

/-- Create a row. -/
def create (sv : Service) (now : Int64) : Endpoint where
  readsBody := true
  run c := do
    let s ← liftExcept (sv.schema c.resource .create)
    let body ← liftExcept (parseBody s c.body)
    return success 201 (← sv.create now c.resource body).toJson

/-- Read a row. -/
def read (sv : Service) : Endpoint where
  readsBody := false
  run c := do
    let s ← liftExcept (sv.schema c.resource .read)
    let id ← liftExcept (parseId s c.id)
    return success 200 (← sv.read c.resource id).toJson

/-- Change a row. -/
def update (sv : Service) (now : Int64) : Endpoint where
  readsBody := true
  run c := do
    let s ← liftExcept (sv.schema c.resource .update)
    let id ← liftExcept (parseId s c.id)
    let body ← liftExcept (parseBody s c.body)
    return success 200 (← sv.update now c.resource id body).toJson

/-- Flag a row as deleted. -/
def delete (sv : Service) (now : Int64) : Endpoint where
  readsBody := false
  run c := do
    let s ← liftExcept (sv.schema c.resource .delete)
    let id ← liftExcept (parseId s c.id)
    return success 200 (← sv.delete now c.resource id).toJson

/-- The endpoint for a method on a resource. -/
def resourceEndpoint? (sv : Service) (now : Int64) : Method → Option Endpoint
  | .get | .head => some (list sv)
  | .post => some (create sv now)
  | _ => none

/-- The endpoint for a method on a row. -/
def rowEndpoint? (sv : Service) (now : Int64) : Method → Option Endpoint
  | .get | .head => some (read sv)
  | .put | .patch => some (update sv now)
  | .delete => some (delete sv now)
  | _ => none

/-! ## Answers -/

/-- The answer to a body that is announced as too long. -/
def tooLong : Response := ⟨413, .text "length limit exceeded"⟩

/-- The answer to a body that turns out to be too long. -/
def tooLongToRead : Response :=
  ⟨413, .text "Failed to buffer the request body: length limit exceeded"⟩

/-- The answer to a part of a path that is no text. -/
def invalidPart (part : String) : Response :=
  ⟨400, .text ("Invalid URL: Invalid UTF-8 in `" ++ part ++ "`")⟩

/-- Say how the service is. -/
def health : Response := ⟨200, .document (.ofPairs [("status", .string "ok")])⟩

/-- Say what the service is. -/
def version : Response :=
  ⟨200, .document (.ofPairs [("name", .string "resource-sdk"), ("version", .string "0.1.0")])⟩

/-- What the parts of a path say, or the answer to the first that is no text. -/
def parts : List (String × List Char) → Except Response (List String)
  | [] => .ok []
  | (name, cs) :: rest =>
    match Percent.decode? cs with
    | some text => (parts rest).map (text :: ·)
    | none => .error (invalidPart name)

/-- The answer to what comes of a request; none if it stopped without an answer. -/
def settle : Except Failure Response → Option Response
  | .ok response => some response
  | .error (.crash _) => none
  | .error failure => some ⟨failure.status, .document failure.toJson⟩

/-- Answer a request at an endpoint, where the path has the given parts. -/
def serve (server : Server) (endpoint : Option Endpoint) (path : List (String × List Char))
    (r : Request) : StateM Store (Option Response) :=
  match endpoint with
  | none => return some (.bare 405)
  | some endpoint =>
    match parts path with
    | .error response => return some response
    | .ok texts =>
      if endpoint.readsBody && server.maxBody < r.body.length then return some tooLongToRead
      else do
        let call : Call := ⟨texts.headD "", texts.tail.headD "", Percent.params r.query, r.body⟩
        return settle (← (endpoint.run call).run)

/-- Answer a request for one of the fixed paths. -/
def fixed (response : Response) (r : Request) : Response :=
  match r.method with
  | .get | .head => response
  | _ => .bare 405

/-- Answer a request by its route. -/
def dispatch (server : Server) (now : Int64) (route : Route) (r : Request) :
    StateM Store (Option Response) :=
  match route with
  | .health => return some (fixed health r)
  | .version => return some (fixed version r)
  | .resource name =>
    server.serve (resourceEndpoint? server.service now r.method) [("resource", name)] r
  | .row name id =>
    server.serve (rowEndpoint? server.service now r.method) [("resource", name), ("id", id)] r

/-- Answer a request, at a time. There is no answer if the request stops the server. -/
def handle (server : Server) (now : Int64) (r : Request) : StateM Store (Option Response) :=
  if r.method = .options then return some (.bare 200)
  else
    let oversized := r.announced && server.maxBody < r.body.length
    match Route.ofPath? server.pathPrefix r.path with
    | none => return some (if oversized then tooLong else .bare 404)
    | some route => do
      let response ←
        if oversized then pure (some tooLong) else server.dispatch now route r
      return if r.method = .head then response.map Response.withoutContent else response

end Server

end Registrar.Http
