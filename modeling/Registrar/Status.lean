import Registrar.Address
import Registrar.Identity
import Registrar.Table

/-! What the two authorities say about an identity. -/
namespace Registrar
set_option autoImplicit false

inductive Authority where
  | registry
  | delegationLedger
deriving DecidableEq, Repr

def Authority.label : Authority → String
  | registry => "registry"
  | delegationLedger => "delegation_ledger"

inductive StatusKind where
  | unregistered
  | registered
  | active
  | exitPending
  | exited
  | kicked
  | other (code : UInt8)
deriving DecidableEq, Repr

namespace StatusKind

def ofCode (code : UInt8) : StatusKind :=
  match code.toNat with
  | 0 => unregistered
  | 1 => registered
  | 2 => active
  | 3 => exitPending
  | 4 => exited
  | 5 => kicked
  | _ => other code

/-- The ledger holds a delegation exactly when there is a representative, whatever the code. -/
def ofLedger (representative : Address) (code : UInt8) : StatusKind :=
  if representative.isZero then unregistered
  else match ofCode code with
    | unregistered => registered
    | kind => kind

def isUnregistered (k : StatusKind) : Bool :=
  k = unregistered

end StatusKind

structure AuthorityStatus where
  kind : StatusKind
  representative : Address
  payoutRecipient : Address
deriving DecidableEq

namespace AuthorityStatus

def unregistered : AuthorityStatus :=
  ⟨.unregistered, .zero, .zero⟩

instance : Inhabited AuthorityStatus := ⟨unregistered⟩

def isUnregistered (s : AuthorityStatus) : Bool :=
  s.kind.isUnregistered

end AuthorityStatus

/-! ## Both authorities at once -/

abbrev StatusMap := Table PublicKey AuthorityStatus

/-- The status of an identity; one that was not asked for reads as unregistered. -/
def StatusMap.status (m : StatusMap) (k : PublicKey) : AuthorityStatus :=
  (m.get? k).getD .unregistered

/-- One identity at the registry and, when the ledger is in use, at the ledger. -/
structure IdentityStatus where
  registry : AuthorityStatus
  delegation : Option AuthorityStatus
deriving DecidableEq

/-- One reading of the authorities for the identities of a chunk. -/
structure StatusSnapshot where
  registry : StatusMap
  delegation : Option StatusMap

def StatusSnapshot.identity (s : StatusSnapshot) (k : PublicKey) : IdentityStatus :=
  ⟨s.registry.status k, s.delegation.map (·.status k)⟩

end Registrar
