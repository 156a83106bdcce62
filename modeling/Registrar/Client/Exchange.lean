import Registrar.Json.Decode
import Registrar.Text.Blank

/-! What is asked of other services over HTTP and what comes back. -/
namespace Registrar.Client
set_option autoImplicit false

structure Request where
  method : String
  url : String
  /-- The media types that a reply may have. -/
  accept : String
  body : Option Json

inductive Reply where
  | unreachable (reason : String)
  | answered (status : Nat) (body : String)
deriving DecidableEq, Repr

def Request.get (url : String) : Request :=
  ⟨"GET", url, "*/*", none⟩

def Request.post (url : String) (body : Json) : Request :=
  ⟨"POST", url, "*/*", some body⟩

/-- The URL of a service, to which paths are appended: without blanks around it and without slashes at
its end. -/
def baseUrl (url : String) : String :=
  String.ofList ((Text.trim url.toList).reverse.dropWhile (· = '/')).reverse

namespace Reply

/-- The body of a reply that reports no failure, or else what went wrong. -/
def content : Reply → Except String String
  | unreachable reason => .error reason
  | answered status body =>
    if 400 ≤ status && status < 600 then .error ("HTTP status " ++ toString status) else .ok body

def value {α : Type} (r : Reply) (decode : Json.Decoder α) : Except String α :=
  match r.content with
  | .error reason => .error reason
  | .ok body =>
    match decode (Json.parse body) with
    | .ok a => .ok a
    | .error _ => .error "error decoding response body"

end Reply

end Registrar.Client
