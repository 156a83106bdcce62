import Registrar.Client.Exchange
import Registrar.Wire.Message

/-! The service that signs for the representative. -/
namespace Registrar.Client.SecondarySigner
set_option autoImplicit false

def authorizeRequest (url : String) (r : SignedRegistration) (representative : Address) : Request :=
  .post (baseUrl url ++ "/api/v1/representative-signature")
    (.object
      [("registration", r.toJson), ("representative", Wire.hexJson representative)])

def authorization (r : SignedRegistration) (reply : Reply) : Except Error EcdsaSignature :=
  match reply.value EcdsaSignature.ofJson with
  | .ok s => .ok s
  | .error reason => .error (.secondarySignature r.pubkey.toHex reason)

end Registrar.Client.SecondarySigner
