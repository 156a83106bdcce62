import Registrar.Table
import Registrar.Identity

/-! Lists of requests made ready for sending: one item for each identity, cut into consecutive
ranges, and a queue of ranges that can be halved. -/
namespace Registrar
set_option autoImplicit false

/-! ## One item for each identity -/

/-- The last item of each identity, at the place of the identity's first item. -/
def dedup {κ α : Type} [DecidableEq κ] (identity : α → κ) (items : List α) : List α :=
  (Table.ofList (items.map fun item => (identity item, item))).values

/-! ## Ranges -/

/-- The indices from `start` up to but not including `stop`. -/
structure IndexRange where
  start : Nat
  stop : Nat
deriving DecidableEq, Repr

namespace IndexRange

def length (r : IndexRange) : Nat :=
  r.stop - r.start

def slice {α : Type} (r : IndexRange) (items : List α) : List α :=
  (items.drop r.start).take r.length

/-- Lower and upper half of a range; a range of one index has none. -/
def halves? (r : IndexRange) : Option (IndexRange × IndexRange) :=
  if r.length ≤ 1 then none
  else
    let middle := r.start + r.length / 2
    some (⟨r.start, middle⟩, ⟨middle, r.stop⟩)

end IndexRange

/-- Consecutive ranges over `length` indices, all but perhaps the last of `max` indices; a `max` of
zero counts as one. -/
def chunkRanges (length max : Nat) : List IndexRange :=
  let width := Nat.max max 1
  (List.range ((length + width - 1) / width)).map fun i =>
    ⟨i * width, Nat.min (i * width + width) length⟩

/-- Ranges still to be served, the next one first. -/
structure RangeQueue where
  pending : List IndexRange
deriving DecidableEq, Repr

namespace RangeQueue

def ofLength (length max : Nat) : RangeQueue :=
  ⟨chunkRanges length max⟩

def next? (q : RangeQueue) : Option (IndexRange × RangeQueue) :=
  match q.pending with
  | [] => none
  | r :: rest => some (r, ⟨rest⟩)

theorem next?_eq_none_iff {q : RangeQueue} : q.next? = none ↔ q.pending = [] := by
  unfold next?
  cases q.pending with
  | nil => exact ⟨fun _ => rfl, fun _ => rfl⟩
  | cons r rest => exact ⟨nofun, nofun⟩

/-- Puts both halves of a range in front, the lower one first; `none` when it cannot be halved. -/
def split? (q : RangeQueue) (r : IndexRange) : Option RangeQueue :=
  r.halves?.map fun (lower, upper) => ⟨lower :: upper :: q.pending⟩

end RangeQueue

end Registrar
