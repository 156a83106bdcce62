import Registrar.Status

/-! How the work for an identity ended at each authority, and the results handed to the caller. -/
namespace Registrar
set_option autoImplicit false

inductive DispatchStatus where
  /-- No transaction was due, and the authority does not hold the identity. -/
  | notRequired
  /-- The authority holds the identity already. -/
  | alreadySatisfied
  | confirmed (txHash : Word)
  | failed (txHash : Option Word) (reason : String)
  /-- The transaction may still land. -/
  | unknown (txHash : Option Word) (reason : String)
deriving DecidableEq

namespace DispatchStatus

def isSuccess : DispatchStatus → Bool
  | alreadySatisfied | confirmed _ => true
  | _ => false

def txHash : DispatchStatus → Option Word
  | confirmed h => some h
  | failed h _ | unknown h _ => h
  | notRequired | alreadySatisfied => none

def label : DispatchStatus → String
  | notRequired => "not_required"
  | alreadySatisfied => "already_satisfied"
  | confirmed _ => "confirmed"
  | failed .. => "failed"
  | unknown .. => "unknown"

end DispatchStatus

/-- The result for one identity of a registration call. -/
structure ReconciliationResult where
  pubkey : PublicKey
  representative : Address
  payoutRecipient : Address
  secondarySignature : Option EcdsaSignature
  registrySuccess : Bool
  delegationSuccess : Bool
  registry : DispatchStatus
  delegation : DispatchStatus
deriving DecidableEq

namespace ReconciliationResult

def start (pubkey : PublicKey) (representative payoutRecipient : Address) : ReconciliationResult :=
  { pubkey, representative, payoutRecipient
    secondarySignature := none
    registrySuccess := false
    delegationSuccess := false
    registry := .notRequired
    delegation := .notRequired }

/-- Records an outcome and keeps the flag of success in step with it. -/
def setStatus (r : ReconciliationResult) (a : Authority) (s : DispatchStatus) :
    ReconciliationResult :=
  match a with
  | .registry => { r with registry := s, registrySuccess := s.isSuccess }
  | .delegationLedger => { r with delegation := s, delegationSuccess := s.isSuccess }

def status (r : ReconciliationResult) : Authority → DispatchStatus
  | .registry => r.registry
  | .delegationLedger => r.delegation

end ReconciliationResult

end Registrar
