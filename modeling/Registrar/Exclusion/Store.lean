import Registrar.Exclusion.File

/-! The published exclusion list and the versions given to its successors. -/
namespace Registrar
set_option autoImplicit false

structure ExclusionStore where
  current : ExclusionTable
  /-- The version of the next table read from a file. -/
  nextVersion : UInt64

namespace ExclusionStore

def ofTable (t : ExclusionTable) : ExclusionStore :=
  ⟨t, t.version + 1⟩

def empty : ExclusionStore :=
  ofTable (.empty 0)

def replace (s : ExclusionStore) (t : ExclusionTable) : ExclusionStore :=
  { s with current := t }

/-- Publishes the table in a file. A failure leaves the published table as it is and still takes up
a version. -/
def reload (s : ExclusionStore) (path : String) (reading : FileReading) :
    ExclusionStore × Except Error ExclusionTable :=
  let s' := { s with nextVersion := s.nextVersion + 1 }
  match ExclusionTable.load path reading s.nextVersion with
  | .error e => (s', .error e)
  | .ok t => (s'.replace t, .ok t)

end ExclusionStore

end Registrar
