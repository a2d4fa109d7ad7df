import WebhookGuard.Text.Json
import WebhookGuard.Verdict

/-
  Responses. The response to a delivery tells whether it was accepted and whether another try makes
  sense, and nothing else: why a delivery was rejected is for the logs and the counters.
-/
namespace WebhookGuard

open WebhookGuard.Text

/-- A response. -/
structure Response where
  status : Nat
  fields : List (String × String) := []
  body : String := ""
deriving DecidableEq, Repr

namespace Response

/-- The value of a header field. -/
def value? (r : Response) (name : String) : Option String := r.fields.lookup name

/-- A response with a body of some type. -/
def withBody (status : Nat) (type body : String) (fields : List (String × String) := []) :
    Response :=
  ⟨status, ("content-type", type) :: fields, body⟩

/-- A response with an object as its body. -/
def ofObject (status : Nat) (members : List (String × String))
    (fields : List (String × String) := []) : Response :=
  withBody status "application/json" (Json.object members) fields

/-- The response where nothing answers a request. -/
def notFound : Response := ⟨404, [], ""⟩

/-- The seconds that a sender should wait before it tries again. -/
def retryAfterSecs : Nat := 5

/-- The response to an accepted delivery. -/
def received : Response := ofObject 200 [("received", "true")]

/-- The response to a delivery that is rejected for good. -/
def refused : Response := ofObject 401 [("error", Json.text "webhook verification failed")]

/-- The response to a delivery that the store could not decide on. -/
def unavailable : Response :=
  ofObject 503 [("error", Json.text "webhook verification temporarily unavailable")]
    [("retry-after", toString retryAfterSecs)]

/-- The response to a delivery with a verdict. -/
def ofVerdict : Verdict → Response
  | .accepted => received
  | .rejected reason => if reason.isRetriable then unavailable else refused

end Response

end WebhookGuard
