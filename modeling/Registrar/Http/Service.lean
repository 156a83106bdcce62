import Registrar.Engine.Basic
import Registrar.Http.ContentType
import Registrar.Metrics
import Registrar.Wire.Outcome

/-! The service over HTTP: routes, the checks that a request passes before the engine sees it, and the
rendering of what the engine returns. -/
namespace Registrar.Http
set_option autoImplicit false

/-! ## Requests and responses -/

structure Request where
  method : String
  target : String
  contentType : Option String
  body : Bytes
deriving Repr

inductive Body where
  | none
  | json (v : Json)
  | text (s : String)

structure Response where
  status : Nat
  contentType : Option String
  body : Body

def Response.bare (status : Nat) : Response :=
  ⟨status, none, .none⟩

def Response.ofJson (status : Nat) (v : Json) : Response :=
  ⟨status, some "application/json", .json v⟩

/-! ## Errors -/

/-- Errors that the request is to blame for; all others are the service's. -/
def statusOfError : Error → Nat
  | .invalidPublicKey .. | .encoding _ | .serialization .. => 400
  | _ => 500

def errorBody (e : Error) (message : String) : Json :=
  .object
    [("error",
      .object
        [("code", .string e.code), ("class", .string e.reach.label), ("message", .string message)])]

def Response.ofError (e : Error) : Response :=
  .ofJson (statusOfError e) (errorBody e e.text)

/-! ## Routes -/

inductive Route where
  | registrations
  | action (a : DelegationAction)
  | health
  | metrics
deriving DecidableEq, Repr

namespace Route

def all : List Route :=
  [registrations, action .claim, action .exit, health, metrics]

def path : Route → String
  | registrations => "/api/v1/registrations"
  | action .claim => "/api/v1/claims"
  | action .exit => "/api/v1/exits"
  | health => "/health"
  | metrics => "/metrics"

/-- The name under which requests are counted. -/
def label : Route → String
  | registrations => "registrations"
  | action .claim => "claims"
  | action .exit => "exits"
  | health => "health"
  | metrics => "metrics"

def methods : Route → List String
  | registrations | action _ => ["POST"]
  | health | metrics => ["GET", "HEAD"]

end Route

def isSchemeChar (c : Char) : Bool :=
  c.isAlphanum || c = '+' || c = '-' || c = '.'

/-- A target without the scheme and the host that it may name. -/
def localTarget (cs : List Char) : List Char :=
  match Text.cutAt? "://".toList cs with
  | some (scheme, rest) =>
    if !scheme.isEmpty && scheme.all isSchemeChar then
      rest.dropWhile fun c => c ≠ '/' && c ≠ '?' && c ≠ '#'
    else cs
  | none => cs

def Request.path (r : Request) : String :=
  String.ofList ((localTarget r.target.toList).takeWhile fun c => c ≠ '?' && c ≠ '#')

def Request.route? (r : Request) : Option Route :=
  Route.all.find? (·.path = r.path)

/-! ## Bodies -/

def statusOfFault : Json.Fault → Nat
  | .syntactic => 400
  | .shape => 422

/-- The value in a body: its type must be announced, it must not be too long, and what follows the
value does not matter. A refusal is the status of the response. -/
def Request.value {α : Type} (r : Request) (limit : Nat) (decode : Json.Decoder α) : Except Nat α :=
  if !r.contentType.any announcesJson then .error 415
  else if limit < r.body.length then .error 413
  else
    match String.fromUTF8? ⟨r.body.toArray⟩ with
    | none => .error 400
    | some text =>
      match decode (Json.first text) with
      | .ok a => .ok a
      | .error fault => .error (statusOfFault fault)

/-! ## Serving -/

inductive Served where
  | refused (status : Nat)
  | health
  | metrics
  | registrations (r : Except Error (List ReconciliationResult))
  | action (a : DelegationAction) (r : Except Error (List DelegationActionResult))

structure Service where
  engine : Engine
  /-- Most bytes in a body. -/
  bodyLimit : Nat

namespace Service

/-- Hands the request to the engine where its route asks for that. -/
def handle (s : Service) (r : Request) : Route → Program Served
  | .health => .done .health
  | .metrics => .done .metrics
  | .registrations =>
    match r.value s.bodyLimit (Json.asList SignedRegistration.ofJson) with
    | .error status => .done (.refused status)
    | .ok intents => return .registrations (← s.engine.processRegistrations intents)
  | .action a =>
    match r.value s.bodyLimit (Json.asList DelegationReport.ofJson) with
    | .error status => .done (.refused status)
    | .ok reports => return .action a (← s.engine.processAction a reports)

def serve (s : Service) (r : Request) : Program Served :=
  match r.route? with
  | none => .done (.refused 404)
  | some route =>
    if route.methods.contains r.method then s.handle r route else .done (.refused 405)

end Service

namespace Served

def resultLabel {α : Type} : Except Error α → String
  | .ok _ => "ok"
  | .error _ => "error"

/-- Counts the calls of the engine and the results reported by them. -/
def count (m : Metrics) : Served → Metrics
  | refused _ | health | metrics => m
  | registrations r =>
    let m := m.countRequest (Route.label .registrations) (resultLabel r)
    match r with
    | .ok results => m.countResults results
    | .error _ => m
  | action a r => m.countRequest (Route.label (.action a)) (resultLabel r)

def listResponse {α : Type} (toJson : α → Json) : Except Error (List α) → Response
  | .ok items => .ofJson 200 (.array (items.map toJson))
  | .error e => .ofError e

def response (m : Metrics) : Served → Response
  | refused status => .bare status
  | health => .ofJson 200 (.object [("status", .string "healthy")])
  | metrics => ⟨200, some "text/plain; version=0.0.4", .text m.text⟩
  | registrations r => listResponse ReconciliationResult.toJson r
  | action _ r => listResponse DelegationActionResult.toJson r

end Served

/-- The response as it goes out: one to `HEAD` has no body. -/
def Response.answering (r : Request) (response : Response) : Response :=
  if r.method = "HEAD" && response.contentType.isSome then { response with body := .text "" }
  else response

end Registrar.Http
