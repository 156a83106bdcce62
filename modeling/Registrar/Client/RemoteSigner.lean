import Registrar.Client.Exchange
import Registrar.Wire.Message

/-! The service that holds the validators' keys: it lists them and signs registration messages. -/
namespace Registrar.Client.RemoteSigner
set_option autoImplicit false

/-! ## Keys -/

def listRequest (url : String) : Request :=
  .get (baseUrl url ++ "/api/v1/eth2/publicKeys")

/-- The listed keys; one that is malformed fails the whole listing. -/
def keys (reply : Reply) : Except Error (List PublicKey) :=
  match reply.value (Json.asList Json.asString) with
  | .error reason => .error (.remoteSigner "list keys" reason)
  | .ok names => names.mapM FixedBytes.ofHex

/-! ## Signatures -/

def signRequest (url : String) (m : RegistrationMessage) : Request :=
  { Request.post (baseUrl url ++ "/api/v1/eth2/sign/" ++ m.pubkey.toHex)
      (.object
        [("type", .string "VALIDATOR_REGISTRATION"), ("validator_registration", m.toJson)]) with
    accept := "application/json" }

def unquoted (cs : List Char) : List Char :=
  ((cs.dropWhile (· = '"')).reverse.dropWhile (· = '"')).reverse

/-- The signature in a body: a member of an object, or the text itself with or without quotes. -/
def signatureOf (body : String) : Except Error BlsSignature :=
  let text := Text.trimmed body
  let digits :=
    match (Json.Shape.required "signature" Json.asString).decode (Json.parse text) with
    | .ok s => s
    | .error _ => String.ofList (unquoted text.toList)
  match FixedBytes.ofHex digits with
  | .ok s => .ok s
  | .error e => .error (.remoteSigner "sign response" e.text)

def signed (m : RegistrationMessage) (reply : Reply) : Except Error SignedRegistration :=
  match reply.content with
  | .error reason => .error (.remoteSigner "sign" reason)
  | .ok body => (signatureOf body).map fun s => ⟨m, s⟩

end Registrar.Client.RemoteSigner
