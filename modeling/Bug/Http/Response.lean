import Bug.Db.Query
import Bug.Encoding.Json

/-!
# The responses of the HTTP server

What succeeds is answered with a document around its data.  What fails is
answered with the code of its error; the detail of an error is left out of the
body unless the error is a missing resource, so nothing but the code of an
internal error leaves the server.
-/

namespace Bug.Http

open Bug.Encoding

inductive StatusCode where
  | ok
  | badRequest
  | notFound
  | methodNotAllowed
  | internalServerError
  deriving DecidableEq

namespace StatusCode

def asU16 : StatusCode → Nat
  | ok => 200
  | badRequest => 400
  | notFound => 404
  | methodNotAllowed => 405
  | internalServerError => 500

def canonicalReason : StatusCode → String
  | ok => "OK"
  | badRequest => "Bad Request"
  | notFound => "Not Found"
  | methodNotAllowed => "Method Not Allowed"
  | internalServerError => "Internal Server Error"

/-- `serialize_status_code`: the members that are flattened into an error. -/
def serialize (code : StatusCode) : List (String × Json) :=
  [("code", .integer code.asU16), ("message", .string code.canonicalReason)]

end StatusCode

structure HttpResponse where
  status : StatusCode
  /-- A body that is empty, or whose text the framework chooses, is none. -/
  body : Option Json

/-! ## Documents -/

/-- `Document::new`, whose pagination is left out. -/
def document (data : Json) : Json :=
  .object [("data", data)]

/-- `HttpResponse::Ok().json2(&Document::new(data))`. -/
def HttpResponse.json2 (data : Json) : HttpResponse where
  status := .ok
  body := some (document data)

/-- `HttpResponse::Ok().finish()`. -/
def HttpResponse.finish : HttpResponse where
  status := .ok
  body := none

/-! ## Errors -/

inductive ErrorKind where
  | actix
  | db
  | notFound
  deriving DecidableEq

/-- The names of the variants. -/
def ErrorKind.serialize : ErrorKind → Json
  | actix => .string "Actix"
  | db => .string "DB"
  | notFound => .string "NotFound"

structure ErrorDetail where
  kind : ErrorKind
  message : String
  isPrivate : Bool

namespace ErrorDetail

def new (kind : ErrorKind) (message : String) : ErrorDetail where
  kind := kind
  message := message
  isPrivate := false

def newPrivate (kind : ErrorKind) (message : String) : ErrorDetail where
  kind := kind
  message := message
  isPrivate := true

def serialize (detail : ErrorDetail) : Json :=
  .object [("kind", detail.kind.serialize), ("message", .string detail.message),
    ("private", .bool detail.isPrivate)]

end ErrorDetail

structure Error where
  code : StatusCode
  detail : ErrorDetail

namespace Error

def serialize (error : Error) : Json :=
  .object (error.code.serialize ++
    if error.detail.isPrivate then [] else [("detail", error.detail.serialize)])

/-- `error_response`: the status code of the error, and its text as the body. -/
def response (error : Error) : HttpResponse where
  status := error.code
  body := some error.serialize

section Display

-- The texts of the errors of other libraries.
variable (display : Db.Error → String) (displayMailbox : Db.MailboxError → String)

/-- `From<MailboxError>`. -/
def ofMailboxError (error : Db.MailboxError) : Error where
  code := .internalServerError
  detail := .newPrivate .actix (displayMailbox error)

/-- The detail of an error of the database. -/
def detailOf : Db.Error → ErrorDetail
  | .diesel true => .new .notFound "resource not found"
  | .diesel false => .newPrivate .db (display (.diesel false))
  | .poolError => .newPrivate .db (display .poolError)
  | .unexpected msg => .newPrivate .db msg

/-- `From<db::Error>`. -/
def ofDbError (error : Db.Error) : Error where
  code :=
    match (detailOf display error).kind with
    | .notFound => .notFound
    | .actix => .internalServerError
    | .db => .internalServerError
  detail := detailOf display error

/-- `.await??`: the answer of the actor, or the error of either layer. -/
def await {α : Type} : Db.Answer α → Except Error α
  | .ok (.ok value) => .ok value
  | .ok (.error error) => .error (ofDbError display error)
  | .error error => .error (ofMailboxError displayMailbox error)

/-! ## What a failure tells -/

/-- A missing row is told with its detail. -/
theorem response_notFound :
    (ofDbError display (.diesel true)).response =
      { status := .notFound
        body := some (.object [("code", .integer 404), ("message", .string "Not Found"),
          ("detail", .object [("kind", .string "NotFound"),
            ("message", .string "resource not found"), ("private", .bool false)])]) } :=
  rfl

/-- The response to an internal failure, whatever failed. -/
def internal : HttpResponse where
  status := .internalServerError
  body := some (.object [("code", .integer 500), ("message", .string "Internal Server Error")])

theorem response_ofDbError {error : Db.Error} (present : error ≠ .diesel true) :
    (ofDbError display error).response = internal := by
  cases error with
  | diesel notFound =>
      cases notFound with
      | false => rfl
      | true => exact absurd rfl present
  | poolError => rfl
  | unexpected msg => rfl

theorem response_ofMailboxError (error : Db.MailboxError) :
    (ofMailboxError displayMailbox error).response = internal :=
  rfl

end Display

end Error

end Bug.Http
