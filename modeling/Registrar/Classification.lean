import Registrar.Exclusion
import Registrar.Status

/-! The state of one identity, from its status at both authorities, its exclusions and the engine's
own signing address, and what that state calls for. -/
namespace Registrar
set_option autoImplicit false

inductive IdentityState where
  /-- Not registered, and kept from registration. -/
  | excluded
  /-- To be registered, and delegated as well when `delegate`. -/
  | unregistered (delegate : Bool)
  /-- Registered; to be delegated when `delegate`. -/
  | registryOnly (representative payoutRecipient : Address) (delegate : Bool)
  /-- Present at both authorities. -/
  | fullyDelegated (representative payoutRecipient : Address)
  /-- Registered under another representative. -/
  | unauthorized (representative : Address)
  /-- Delegated without being registered. -/
  | inconsistent
deriving DecidableEq

namespace IdentityState

def needsRegistration : IdentityState → Bool
  | unregistered _ => true
  | _ => false

def needsDelegation : IdentityState → Bool
  | unregistered delegate => delegate
  | registryOnly _ _ delegate => delegate
  | _ => false

/-- Whether the identity appears in the results. -/
def isReported : IdentityState → Bool
  | excluded | unauthorized _ | inconsistent => false
  | _ => true

def label : IdentityState → String
  | excluded => "excluded"
  | unregistered _ => "unregistered"
  | registryOnly .. => "registry_only"
  | fullyDelegated .. => "fully_delegated"
  | unauthorized _ => "unauthorized"
  | inconsistent => "inconsistent"

end IdentityState

/-- The state of an identity that the registry does not know. -/
def classifyFresh (ledger : Option AuthorityStatus) (exclusion : Exclusion) : IdentityState :=
  if ledger.any fun l => !l.isUnregistered then .inconsistent
  else if exclusion.registry then .excluded
  else .unregistered (ledger.isSome && !exclusion.nativeDelegation)

/-- The state of an identity that the registry knows. -/
def classifyRegistered (registry : AuthorityStatus) (ledger : Option AuthorityStatus)
    (exclusion : Exclusion) (signer : Address) : IdentityState :=
  match ledger with
  | none => .registryOnly registry.representative registry.payoutRecipient false
  | some l =>
    if !l.isUnregistered then .fullyDelegated registry.representative registry.payoutRecipient
    else if exclusion.nativeDelegation then
      .registryOnly registry.representative registry.payoutRecipient false
    else if registry.representative ≠ signer then .unauthorized registry.representative
    else .registryOnly registry.representative registry.payoutRecipient true

def classify (status : IdentityStatus) (exclusion : Exclusion) (signer : Address) : IdentityState :=
  if status.registry.isUnregistered then classifyFresh status.delegation exclusion
  else classifyRegistered status.registry status.delegation exclusion signer

end Registrar
