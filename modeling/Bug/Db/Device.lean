import Bug.Primitive.Uuid

/-!
# Devices and the replies of the database actor
-/

namespace Bug.Db

structure Device where
  id : Uuid
  name : String
  description : String
  deriving DecidableEq

/-- The errors of the database actor.  A Diesel error is told apart only by
whether it is `NotFound`. -/
inductive Error where
  | diesel (notFound : Bool)
  | poolError
  | unexpected (msg : String)
  deriving DecidableEq

inductive MailboxError where
  | closed
  | timeout
  deriving DecidableEq

/-- What comes back for the lookup of a device by its secret. -/
abbrev DeviceReply := Except MailboxError (Except Error Device)

end Bug.Db
