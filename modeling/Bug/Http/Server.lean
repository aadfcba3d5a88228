import Bug.Encoding.PathPattern
import Bug.Http.Payload
import Bug.Http.Response

/-!
# The HTTP server

A request is routed by its path and its method.  What a handler needs of the
request is extracted first; then it sends one message to the database actor and
renders the answer.
-/

namespace Bug.Http

open Bug.Db
open Bug.Encoding

inductive Method where
  | get
  | post
  | delete
  deriving DecidableEq

structure HttpRequest where
  method : Method
  path : String
  body : Option Json

/-! ## The database actor as a handler meets it -/

/-- What becomes of a message. -/
inductive Outcome where
  | handled
  /-- It is not handled. -/
  | undelivered (error : MailboxError)
  /-- Its statements fail and are rolled back. -/
  | failed (error : Db.Error)
  /-- It takes effect, and the acknowledgement is lost. -/
  | unacknowledged (error : Db.Error)
  deriving DecidableEq

/-- The address of the actor: what becomes of the next message, and what an insert
generates. -/
structure DatabaseAddr where
  outcome : Outcome
  id : Uuid
  credentialId : Uuid
  secret : UInt64

namespace DatabaseAddr

def send (database : DatabaseAddr) (tables : Tables) {α : Type} (query : Query α) :
    Tables × Answer α :=
  let handled := query.handle database.id database.credentialId database.secret tables
  match database.outcome with
  | .handled => handled
  | .undelivered error => (tables, .error error)
  | .failed error => (tables, .ok (.error error))
  | .unacknowledged error => (handled.1, .ok (.error error))

end DatabaseAddr

/-! ## The handlers -/

section Handlers

variable (formats : Formats)

/-- The response to an awaited answer, or to its error. -/
def render {α : Type} (success : α → HttpResponse) (answer : Answer α) : HttpResponse :=
  match Error.await formats.display formats.displayMailbox answer with
  | .ok value => success value
  | .error error => error.response

/-- Send a message and render its answer. -/
def respond (database : DatabaseAddr) (tables : Tables) {α : Type} (query : Query α)
    (success : α → HttpResponse) : Tables × HttpResponse :=
  ((database.send tables query).1, render formats success (database.send tables query).2)

namespace Device

def create (database : DatabaseAddr) (tables : Tables) (body : NewDevice) :
    Tables × HttpResponse :=
  respond formats database tables (.insertDevice body) fun created =>
    .json2 (Device.serializeNew created)

def list (database : DatabaseAddr) (tables : Tables) : Tables × HttpResponse :=
  respond formats database tables .selectDevices fun devices =>
    .json2 (.array (devices.map Device.serialize))

def delete (database : DatabaseAddr) (tables : Tables) (id : Uuid) : Tables × HttpResponse :=
  respond formats database tables (.deleteDevice id) fun _ => .finish

end Device

namespace Label

def create (database : DatabaseAddr) (tables : Tables) (body : NewLabel) :
    Tables × HttpResponse :=
  respond formats database tables (.insertLabel body) fun label => .json2 label.serialize

def list (database : DatabaseAddr) (tables : Tables) : Tables × HttpResponse :=
  respond formats database tables .selectLabels fun labels =>
    .json2 (.array (labels.map Label.serialize))

def delete (database : DatabaseAddr) (tables : Tables) (id : Uuid) : Tables × HttpResponse :=
  respond formats database tables (.deleteLabel id) fun _ => .finish

end Label

namespace Event

/-- An event with the identifiers of its labels. -/
def eventRes (row : EventRow × List Label) : Json :=
  EventRow.serializeLabelled formats (row.1, row.2.map Label.id)

def list (database : DatabaseAddr) (tables : Tables) : Tables × HttpResponse :=
  respond formats database tables .selectEvents fun events =>
    .json2 (.array (events.map (eventRes formats)))

def read (database : DatabaseAddr) (tables : Tables) (id : Uuid) : Tables × HttpResponse :=
  respond formats database tables (.selectEvent id) fun event => .json2 (eventRes formats event)

end Event

end Handlers

/-! ## Routing -/

/-- A handler behind its extractors, given the bindings of the path and the body. -/
abbrev Endpoint := DatabaseAddr → Tables → Bindings → Option Json → Tables × HttpResponse

structure Resource where
  pattern : List Component
  routes : List (Method × Endpoint)

/-- `web::scope`. -/
def scope (segment : String) (resources : List Resource) : List Resource :=
  resources.map fun resource =>
    { resource with pattern := .fixed segment :: resource.pattern }

section Routes

variable (formats : Formats)

/-- A handler that takes nothing of the request. -/
def plain (handler : DatabaseAddr → Tables → Tables × HttpResponse) : Endpoint :=
  fun database tables _ _ => handler database tables

/-- A handler that takes the identifier of a path, `web::Path<Uuid>`. -/
def withPath (handler : DatabaseAddr → Tables → Uuid → Tables × HttpResponse) : Endpoint :=
  fun database tables bindings _ =>
    match bindings with
    | [(_, text)] =>
        match formats.parseUuid text with
        | some id => handler database tables id
        | none => (tables, { status := .notFound, body := none })
    | _ => (tables, { status := .notFound, body := none })

/-- A handler that takes a body, `web::Json`. -/
def withBody {α : Type} (deserialize : Json → Option α)
    (handler : DatabaseAddr → Tables → α → Tables × HttpResponse) : Endpoint :=
  fun database tables _ body =>
    match body.bind deserialize with
    | some value => handler database tables value
    | none => (tables, { status := .badRequest, body := none })

/-- `routes`, the part below `/v1`. -/
def routes : List Resource :=
  scope "v1"
    [{ pattern := [.fixed "devices"]
       routes := [(.get, plain (Device.list formats)),
        (.post, withBody NewDevice.deserialize (Device.create formats))] },
     { pattern := [.fixed "devices", .dynamic "id"]
       routes := [(.delete, withPath formats (Device.delete formats))] },
     { pattern := [.fixed "events"]
       routes := [(.get, plain (Event.list formats))] },
     { pattern := [.fixed "events", .dynamic "id"]
       routes := [(.get, withPath formats (Event.read formats))] },
     { pattern := [.fixed "labels"]
       routes := [(.get, plain (Label.list formats)),
        (.post, withBody (NewLabel.deserialize formats) (Label.create formats))] },
     { pattern := [.fixed "labels", .dynamic "id"]
       routes := [(.delete, withPath formats (Label.delete formats))] }]

end Routes

/-- The first resource that matches a path, and what the path binds. -/
def findResource (resources : List Resource) (path : List Char) : Option (Resource × Bindings) :=
  resources.findSome? fun resource =>
    (matchPath resource.pattern path).map fun bindings => (resource, bindings)

/-- The service: the response to a request, and the tables after it. -/
def call (resources : List Resource) (database : DatabaseAddr) (tables : Tables)
    (request : HttpRequest) : Tables × HttpResponse :=
  match findResource resources request.path.toList with
  | none => (tables, { status := .notFound, body := none })
  | some (resource, bindings) =>
      match resource.routes.lookup request.method with
      | none => (tables, { status := .methodNotAllowed, body := none })
      | some endpoint => endpoint database tables bindings request.body

theorem call_of_found {resources : List Resource} {method : Method} {path : String}
    {body : Option Json} {resource : Resource} {bindings : Bindings} {endpoint : Endpoint}
    (found : findResource resources path.toList = some (resource, bindings))
    (routed : resource.routes.lookup method = some endpoint) (database : DatabaseAddr)
    (tables : Tables) :
    call resources database tables ⟨method, path, body⟩ =
      endpoint database tables bindings body := by
  rw [call, found]
  simp only [routed]

end Bug.Http
