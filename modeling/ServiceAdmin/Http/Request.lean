import ServiceAdmin.Error

/-!
# Requests and responses

An administrative request carries the access token as it is.  A response of any status is a
response; whoever sent the request judges the status.
-/

namespace ServiceAdmin.Http

inductive Method
  | get
  | post
  | put
  | patch
  | delete
  deriving DecidableEq, Repr

def Method.text : Method → String
  | get => "GET"
  | post => "POST"
  | put => "PUT"
  | patch => "PATCH"
  | delete => "DELETE"

/-- Whether the body of a response is read. -/
def Method.readsBody : Method → Bool
  | get => true
  | post => true
  | _ => false

/-- What a request sends, and its media type. -/
structure Payload where
  contentType : String
  body : String
  deriving DecidableEq, Repr

def applicationJson : String := "application/json"

def Payload.json (body : String) : Payload := ⟨applicationJson, body⟩

structure Request where
  method : Method
  url : String
  payload : Option Payload
  token : String
  deriving DecidableEq, Repr

structure Response where
  status : Nat
  /-- Empty if the body was not read. -/
  body : String
  deriving DecidableEq, Repr

namespace Response

def isOk (r : Response) : Bool := r.status = 200

/-- Whether the status is one of success. -/
def isSuccess (r : Response) : Bool := 200 ≤ r.status && r.status < 300

theorem isSuccess_iff {r : Response} :
    r.isSuccess = true ↔ 200 ≤ r.status ∧ r.status < 300 := by
  simp [isSuccess]

/-- The body of a response that must have one; `url` was requested. -/
def requireBody (r : Response) (url : String) : Except TransportError String :=
  if r.body = "" then .error (.missingBody url) else .ok r.body

end Response

end ServiceAdmin.Http
