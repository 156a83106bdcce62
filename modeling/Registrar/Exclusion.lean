import Registrar.Identity
import Registrar.Table

/-! The exclusion list: which identities are kept from which authority. -/
namespace Registrar
set_option autoImplicit false

structure Exclusion where
  registry : Bool
  nativeDelegation : Bool
deriving DecidableEq, Repr

def Exclusion.none : Exclusion :=
  ⟨false, false⟩

structure ExclusionRecord where
  pubkey : PublicKey
  exclusion : Exclusion
deriving DecidableEq

/-- A published list; a new version replaces the whole. -/
structure ExclusionTable where
  entries : Table PublicKey Exclusion
  version : UInt64

namespace ExclusionTable

def empty (version : UInt64) : ExclusionTable :=
  ⟨.empty, version⟩

/-- Later records of a key replace earlier ones. -/
def ofRecords (records : List ExclusionRecord) (version : UInt64) : ExclusionTable :=
  ⟨.ofList (records.map fun r => (r.pubkey, r.exclusion)), version⟩

def entry (t : ExclusionTable) (k : PublicKey) : Exclusion :=
  (t.entries.get? k).getD .none

def size (t : ExclusionTable) : Nat :=
  t.entries.size

end ExclusionTable

end Registrar
