import Registrar.Exclusion
import Registrar.Registration
import Registrar.Report
import Registrar.Wire.Scalar

/-! Registrations, reports and exclusion records as JSON. -/
namespace Registrar
set_option autoImplicit false

open Json (Shape Decoder)
open Json.Shape (required optional defaulted)
open Wire

/-! ## Registrations -/

def RegistrationMessage.shape : Shape RegistrationMessage :=
  RegistrationMessage.mk <$> required "fee_recipient" asBytes
    <*> required "gas_limit" asQuotedWord64
    <*> required "timestamp" asQuotedWord64
    <*> required "pubkey" asKey

def RegistrationMessage.ofJson : Decoder RegistrationMessage := shape.decode

def RegistrationMessage.toJson (m : RegistrationMessage) : Json :=
  .object
    [("fee_recipient", hexJson m.feeRecipient), ("gas_limit", ofQuotedWord64 m.gasLimit),
      ("timestamp", ofQuotedWord64 m.timestamp), ("pubkey", hexJson m.pubkey)]

def SignedRegistration.shape : Shape SignedRegistration :=
  SignedRegistration.mk <$> required "message" RegistrationMessage.ofJson
    <*> required "signature" asKey

def SignedRegistration.ofJson : Decoder SignedRegistration := shape.decode

def SignedRegistration.toJson (r : SignedRegistration) : Json :=
  .object [("message", r.message.toJson), ("signature", hexJson r.signature)]

/-! ## Representative's signatures and reports -/

def EcdsaSignature.shape : Shape EcdsaSignature :=
  EcdsaSignature.mk <$> required "v" Json.asByte <*> required "r" asBytes <*> required "s" asBytes

def EcdsaSignature.ofJson : Decoder EcdsaSignature := shape.decode

def EcdsaSignature.toJson (s : EcdsaSignature) : Json :=
  .object [("v", .ofNat s.v.toNat), ("r", hexJson s.r), ("s", hexJson s.s)]

def DelegationReport.shape : Shape DelegationReport :=
  DelegationReport.mk <$> required "pubkey" asKey
    <*> required "reported_balance" asBalance
    <*> required "signature" EcdsaSignature.ofJson

def DelegationReport.ofJson : Decoder DelegationReport := shape.decode

def DelegationReport.toJson (r : DelegationReport) : Json :=
  .object
    [("pubkey", hexJson r.pubkey), ("reported_balance", ofBalance r.reportedBalance),
      ("signature", r.signature.toJson)]

/-! ## Exclusions -/

def Exclusion.shape : Shape Exclusion :=
  Exclusion.mk <$> defaulted "exclude_registry" Json.asBool false
    <*> defaulted "exclude_native_delegation" Json.asBool false

def Exclusion.ofJson : Decoder Exclusion := shape.decode

def Exclusion.members (e : Exclusion) : List (String × Json) :=
  [("exclude_registry", .bool e.registry), ("exclude_native_delegation", .bool e.nativeDelegation)]

def Exclusion.toJson (e : Exclusion) : Json :=
  .object e.members

def ExclusionRecord.shape : Shape ExclusionRecord :=
  ExclusionRecord.mk <$> required "pubkey" asKey <*> Exclusion.shape

/-- A record is an object with the key and the flags side by side, never an array. -/
def ExclusionRecord.ofJson : Decoder ExclusionRecord := fun v =>
  match v with
  | .object _ =>
    match Json.retained v with
    | .error e => .error e
    | .ok v => shape.decodeObject v
  | v => .error v.mismatch

def ExclusionRecord.toJson (r : ExclusionRecord) : Json :=
  .object (("pubkey", hexJson r.pubkey) :: r.exclusion.members)

end Registrar
