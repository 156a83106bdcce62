import Registrar.Outcome

/-! Claims and exits of delegated identities. -/
namespace Registrar
set_option autoImplicit false

inductive DelegationAction where
  | claim
  | exit
deriving DecidableEq, Repr

def DelegationAction.label : DelegationAction → String
  | claim => "claim"
  | exit => "exit"

/-- A request to claim for, or to exit, one delegated identity. -/
structure DelegationReport where
  pubkey : PublicKey
  reportedBalance : BitVec 256
  signature : EcdsaSignature
deriving DecidableEq

inductive TransactionOutcome where
  | confirmed (txHash : Word)
  | failed (txHash : Option Word) (reason : String)
  | unknown (txHash : Option Word) (reason : String)
deriving DecidableEq

def TransactionOutcome.label : TransactionOutcome → String
  | confirmed _ => "confirmed"
  | failed .. => "failed"
  | unknown .. => "unknown"

structure DelegationActionResult where
  pubkey : PublicKey
  action : DelegationAction
  outcome : TransactionOutcome
deriving DecidableEq

end Registrar
