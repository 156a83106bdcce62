import Registrar.Address
import Registrar.Identity

/-! Registration messages, intents signed by validators, and intents after the payout policy. -/
namespace Registrar
set_option autoImplicit false

structure RegistrationMessage where
  feeRecipient : Address
  gasLimit : UInt64
  timestamp : UInt64
  pubkey : PublicKey
deriving DecidableEq

/-- A registration that the validator's key signed. -/
structure SignedRegistration where
  message : RegistrationMessage
  signature : BlsSignature
deriving DecidableEq

def SignedRegistration.pubkey (r : SignedRegistration) : PublicKey :=
  r.message.pubkey

inductive PayoutSource where
  /-- The recipient that the intent names. -/
  | intent
  /-- The configured recipient beside a message that names another one. -/
  | override
  /-- The configured recipient in a message signed anew. -/
  | overrideResigned
deriving DecidableEq, Repr

/-- A registration together with the recipient to be written to the authorities. -/
structure PreparedRegistration where
  registration : SignedRegistration
  payoutRecipient : Address
  source : PayoutSource
deriving DecidableEq

def PreparedRegistration.pubkey (p : PreparedRegistration) : PublicKey :=
  p.registration.pubkey

def PreparedRegistration.unchanged (r : SignedRegistration) : PreparedRegistration :=
  ⟨r, r.message.feeRecipient, .intent⟩

end Registrar
