/-! Tables with one row for each key, in the order in which the keys first came. -/
namespace Registrar
set_option autoImplicit false

structure Table (κ α : Type) where
  rows : List (κ × α)

namespace Table

variable {κ α : Type} [DecidableEq κ]

def empty : Table κ α := ⟨[]⟩

instance : Inhabited (Table κ α) := ⟨empty⟩

/-- Puts a value at the place of its key, or at the end when the key is new. -/
def put (k : κ) (a : α) : List (κ × α) → List (κ × α)
  | [] => [(k, a)]
  | row :: rest => if row.1 = k then (k, a) :: rest else row :: put k a rest

def insert (t : Table κ α) (k : κ) (a : α) : Table κ α :=
  ⟨put k a t.rows⟩

def erase (t : Table κ α) (k : κ) : Table κ α :=
  ⟨t.rows.filter fun row => row.1 ≠ k⟩

def get? (t : Table κ α) (k : κ) : Option α :=
  (t.rows.find? fun row => row.1 = k).map (·.2)

/-- The rows inserted one after another, so that the last value of a key stays. -/
def ofList (rows : List (κ × α)) : Table κ α :=
  rows.foldl (fun t row => t.insert row.1 row.2) empty

def size (t : Table κ α) : Nat :=
  t.rows.length

def keys (t : Table κ α) : List κ :=
  t.rows.map (·.1)

def values (t : Table κ α) : List α :=
  t.rows.map (·.2)

end Table

end Registrar
