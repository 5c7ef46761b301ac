import FlagEngine.Datafile.Decode
import FlagEngine.Prediction.Endpoint
import FlagEngine.Prediction.Retry

/-!
# Exchanges with the prediction service

What is sent, and what is made of what comes back.
-/

namespace FlagEngine.Prediction

/-- The body of a request, with its fields in the order in which the service documents them. -/
def body (call : Bandit.Call) : Json :=
  let told (name : String) (value : Attribute) : Json :=
    .object [("id", .string name), ("value", value.toJson), ("type", .string "custom_attribute")]
  .object [("instances", .array [.object [
    ("visitorId", .string call.userId), ("experimentId", .string call.ruleId),
    ("attributes", .array (call.attributes.toList.map fun (name, value) => told name value)),
    ("cmabUUID", .string call.uuid)]])]

/-- What comes back for a request. -/
inductive Delivery where
  /-- Nothing, since there is no way to send the request. -/
  | refused
  /-- No answer, or none in time. -/
  | lost
  /-- The status of an answer, and its body unless the connection ends before its end. -/
  | answer (status : Nat) (body : Option String)
deriving DecidableEq, Repr, Inhabited

/-- The phrase that stands for a status of 400 or more. -/
def phrase? : Nat → Option String
  | 400 => some "Bad Request"
  | 401 => some "Unauthorized"
  | 402 => some "Payment Required"
  | 403 => some "Forbidden"
  | 404 => some "Not Found"
  | 405 => some "Method Not Allowed"
  | 406 => some "Not Acceptable"
  | 407 => some "Proxy Authentication Required"
  | 408 => some "Request Timeout"
  | 409 => some "Conflict"
  | 410 => some "Gone"
  | 411 => some "Length Required"
  | 412 => some "Precondition Failed"
  | 413 => some "Payload Too Large"
  | 414 => some "URI Too Long"
  | 415 => some "Unsupported Media Type"
  | 416 => some "Range Not Satisfiable"
  | 417 => some "Expectation Failed"
  | 418 => some "I'm a teapot"
  | 421 => some "Misdirected Request"
  | 422 => some "Unprocessable Entity"
  | 423 => some "Locked"
  | 424 => some "Failed Dependency"
  | 425 => some "Too Early"
  | 426 => some "Upgrade Required"
  | 428 => some "Precondition Required"
  | 429 => some "Too Many Requests"
  | 431 => some "Request Header Fields Too Large"
  | 451 => some "Unavailable For Legal Reasons"
  | 500 => some "Internal Server Error"
  | 501 => some "Not Implemented"
  | 502 => some "Bad Gateway"
  | 503 => some "Service Unavailable"
  | 504 => some "Gateway Timeout"
  | 505 => some "HTTP Version Not Supported"
  | 506 => some "Variant Also Negotiates"
  | 507 => some "Insufficient Storage"
  | 508 => some "Loop Detected"
  | 510 => some "Not Extended"
  | 511 => some "Network Authentication Required"
  | _ => none

/-- The text of a status that is a failure. -/
def statusText (status : Nat) : String :=
  let side := if status < 500 then "client" else "server"
  "HTTP status " ++ side ++ " error (" ++ status.repr ++ " "
    ++ (phrase? status).getD "<unknown status code>" ++ ")"

/-- The value that a prediction has for the id of the variation. -/
def prediction? (levels : Nat) (d : Json.Document) : Option Json := do
  let (levels, fields) ← Decode.record? ["variation_id"] levels d
  (← fields "variation_id").toJson? levels

/-- The predictions of a body. All of them must be readable. -/
def predictions? (text : String) : Option (List Json) := do
  let (levels, fields) ← Decode.record? ["predictions"] Json.Document.maxLevels
    (← Json.Document.ofText? text)
  Decode.list? prediction? levels (← fields "predictions")

/-- The id of the first prediction: a text that is not empty, or a number as it is written. -/
def variationId? (text : String) : Option String := do
  match (← predictions? text).head? with
  | some (.string id) => if id.isEmpty then none else some id
  | some (.number n) => some n.text
  | _ => none

/-- What an attempt comes to. -/
def Attempt.ofDelivery : Delivery → Attempt
  | .refused => .failed "builder error"
  | .lost => .failed "error sending request"
  | .answer status body =>
    if 400 ≤ status ∧ status < 600 then .failed (statusText status)
    else
      match body with
      | none => .failed "error decoding response body"
      | some text =>
        match variationId? text with
        | some id => .answered id
        | none => .invalid

/-- A request to the service. -/
structure Request where
  url : Url
  body : Json

variable {σ : Type}

/-- Asks the service for a decision once. Nothing is sent if no request can be made for the URL. -/
def attempt (url : Url) (call : Bandit.Call) (send : Request → σ → Delivery × σ) (s : σ) : Attempt × σ :=
  let (d, s) := if url.isRequestable then send ⟨url, body call⟩ s else (.refused, s)
  (.ofDelivery d, s)

/-- Asks the service for a decision, and again after failures that may pass. -/
def fetch (endpoint : String) (policy : RetryPolicy) (send : Request → σ → Delivery × σ)
    (call : Bandit.Call) (s : σ) : Transcript × σ :=
  match url? endpoint call.ruleId with
  | .error f => (⟨.error f, []⟩, s)
  | .ok url => policy.run (attempt url call send) s

/-! ## Standard settings -/

/-- Where the service is, unless told otherwise. -/
def standardEndpoint : String :=
  "https://prediction.cmab.optimizely.com/predict"

/-- How long one attempt may take. -/
def standardTimeout : Nanoseconds := 10 * nanosPerSecond

end FlagEngine.Prediction
