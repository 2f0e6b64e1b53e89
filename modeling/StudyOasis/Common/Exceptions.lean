import StudyOasis.Text.JsString

/-!
# Business exceptions

The error codes of the API and the exception its services throw.  A call that throws leaves the
database as it was, so the services below return `Except BusinessException`.

A service whose call can fail between two writes is an `Action`, rejected with a `ServiceError`.
-/

namespace StudyOasis

/-- The codes of `business.exception.ts`. -/
inductive ErrorCode where
  | documentNotFound
  | documentTooLarge
  | invalidFileType
  | fileValidationFailed
  | conversationNotFound
  | unauthorizedAccess
  | sessionNotFound
  | sessionAlreadyCompleted
  | ocrFailed
  | ocrNotReady
  | externalServiceError
  | rateLimitExceeded
  deriving DecidableEq, Repr

/-- The exception: its code, its message and the HTTP status it is answered with. -/
structure BusinessException where
  /-- The error code. -/
  code : ErrorCode
  /-- The message of the response. -/
  message : String
  /-- The HTTP status. -/
  statusCode : Nat
  deriving DecidableEq, Repr

/-- What a handler throws. -/
inductive HandlerError where
  /-- A business exception. -/
  | business (e : BusinessException)
  /-- Anything else, such as a query that Prisma refuses. -/
  | internal
  deriving DecidableEq, Repr

/-- What the promise of a service call is rejected with. -/
inductive ServiceError where
  /-- A business exception. -/
  | business (e : BusinessException)
  /-- Another `Error`, of Prisma or of a client library, with its message. -/
  | error (message : JsString)
  deriving DecidableEq, Repr

/-- `error.message`. -/
def ServiceError.message : ServiceError → JsString
  | business e => js e.message
  | error message => message

/-- The status that `AllExceptionsFilter.catch` answers with. -/
def AllExceptionsFilter.status : ServiceError → ℕ
  | .business e => e.statusCode
  | .error _ => 500

end StudyOasis
