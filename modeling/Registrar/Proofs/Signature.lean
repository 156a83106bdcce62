import Registrar.Proofs.Abi

/-! The types that the signature of a function declares for its arguments, and call data read by
them. The selector and the types both come from the text of the signature, and a word is taken only
if it is one of its type. -/
namespace Registrar.Abi
set_option autoImplicit false

/-! ## Types and what they hold -/

inductive DeclaredType where
  | uint (bits : Nat)
  | address
  | bool
  | bytes32
  | bytes
  | array (item : DeclaredType)
  | tuple (fields : List DeclaredType)

/-- A value as its type understands it. -/
inductive Datum where
  | uint (n : Nat)
  | address (a : Address)
  | bool (b : Bool)
  | bytes32 (w : Word)
  | bytes (b : Bytes)
  | array (items : List Datum)
  | tuple (fields : List Datum)

namespace DeclaredType

mutual

def kind : DeclaredType → Kind
  | .uint _ | .address | .bool | .bytes32 => .word
  | .bytes => .bytes
  | .array item => .list item.kind
  | .tuple fields => .record (kinds fields)

def kinds : List DeclaredType → List Kind
  | [] => []
  | t :: ts => t.kind :: kinds ts

end

mutual

/-- The datum that a value is; `none` when it has another kind or its word is none of the type. -/
def view? : DeclaredType → Value → Option Datum
  | .uint bits, .word w => if w.toNat < 2 ^ bits then some (.uint w.toNat) else none
  | .address, .word w => if w.toNat < 2 ^ 160 then some (.address (.ofNat w.toNat)) else none
  | .bool, .word w =>
    if w.toNat = 0 then some (.bool false) else if w.toNat = 1 then some (.bool true) else none
  | .bytes32, .word w => some (.bytes32 w)
  | .bytes, .bytes b => some (.bytes b)
  | .array item, .list items => (items.mapM item.view?).map .array
  | .tuple types, .record fields => (viewAll? types fields).map .tuple
  | _, _ => none

def viewAll? : List DeclaredType → List Value → Option (List Datum)
  | [], [] => some []
  | t :: ts, v :: vs =>
    match t.view? v, viewAll? ts vs with
    | some d, some ds => some (d :: ds)
    | _, _ => none
  | _, _ => none

end

/-! ## Signatures -/

def names : List (String × DeclaredType) :=
  [("bytes", .bytes), ("bytes32", .bytes32), ("address", .address), ("bool", .bool),
    ("uint8", .uint 8), ("uint64", .uint 64), ("uint256", .uint 256)]

/-- The letters of a name, and the types read in each open parenthesis, all latest first. -/
structure Scan where
  word : List Char
  groups : List (List DeclaredType)

namespace Scan

/-- A name ends here, if there is one. -/
def endWord? (s : Scan) : Option Scan :=
  match s.word, s.groups with
  | [], _ => some s
  | word, group :: groups =>
    (names.find? (·.1.toList = word.reverse)).map fun (_, t) => ⟨[], (t :: group) :: groups⟩
  | _, [] => none

/-- The types of the innermost parenthesis become one. -/
def close? (s : Scan) : Option Scan :=
  match s.groups with
  | inner :: outer :: groups => some { s with groups := (.tuple inner.reverse :: outer) :: groups }
  | _ => none

/-- The latest type becomes the type of an array's items. -/
def repeat? (s : Scan) : Option Scan :=
  match s.groups with
  | (t :: group) :: groups => some { s with groups := (.array t :: group) :: groups }
  | _ => none

def step? (s : Scan) (c : Char) : Option Scan :=
  if c = '(' then some { s with groups := [] :: s.groups }
  else if c = ',' || c = '[' then s.endWord?
  else if c = ')' then s.endWord?.bind close?
  else if c = ']' then s.repeat?
  else some { s with word := c :: s.word }

end Scan

/-- The types of a function's arguments: those behind its name. -/
def ofSignature? (signature : String) : Option (List DeclaredType) :=
  match (signature.toList.dropWhile (· ≠ '(')).foldlM Scan.step? ⟨[], [[]]⟩ with
  | some ⟨[], [[.tuple types]]⟩ => some types
  | _ => none

end DeclaredType

open DeclaredType (kinds viewAll? ofSignature?)

def decodeCall? (signature : String) (data : Bytes) : Option (List Datum) :=
  match ofSignature? signature with
  | none => none
  | some types =>
    match (Function.mk signature (kinds types)).arguments? data with
    | none => none
    | some values => viewAll? types values

/-! ## Reading calls -/

namespace DeclaredType

theorem exists_of_mapM_eq_some {α β : Type} {f : α → Option β} {items : List α} {images : List β}
    (h : items.mapM f = some images) {a : α} (ha : a ∈ items) : ∃ b, f a = some b := by
  induction items generalizing images with
  | nil => cases ha
  | cons a' items ih =>
    rw [List.mapM_cons] at h
    obtain ⟨b, first, h⟩ := Option.bind_eq_some_iff.1 h
    obtain ⟨bs, rest, -⟩ := Option.bind_eq_some_iff.1 h
    obtain _ | ⟨_, ha⟩ := ha
    · exact ⟨b, first⟩
    · exact ih rest ha

mutual

/-- What a type understands is of its kind. -/
theorem admits_of_view? : ∀ (t : DeclaredType) {v : Value} {d : Datum},
    t.view? v = some d → t.kind.admits v = true
  | .array item, v, d, h => by
    cases v <;> simp only [view?, reduceCtorEq] at h
    -- Each item was understood, so each is of the item's kind.
    case list items =>
      obtain ⟨ds, each, -⟩ := Option.map_eq_some_iff.1 h
      refine List.all_eq_true.2 fun v hv => ?_
      obtain ⟨d, at_⟩ := exists_of_mapM_eq_some each hv
      exact admits_of_view? item at_
  | .tuple types, v, d, h => by
    cases v <;> simp only [view?, reduceCtorEq] at h
    case record fields =>
      obtain ⟨ds, each, -⟩ := Option.map_eq_some_iff.1 h
      exact admitsAll_of_viewAll? types each
  | .uint _, v, d, h | .address, v, d, h | .bool, v, d, h | .bytes32, v, d, h
  | .bytes, v, d, h => by
    cases v <;> first | rfl | (simp only [view?, reduceCtorEq] at h)

theorem admitsAll_of_viewAll? : ∀ (ts : List DeclaredType) {vs : List Value} {ds : List Datum},
    viewAll? ts vs = some ds → Kind.admitsAll (kinds ts) vs = true
  | [], vs, ds, h => by
    cases vs with
    | nil => rfl
    | cons => cases h
  | t :: ts, vs, ds, h => by
    cases vs with
    | nil => cases h
    | cons v vs =>
      rw [viewAll?] at h
      split at h
      next first rest =>
        rw [kinds, Kind.admitsAll, admits_of_view? t first, admitsAll_of_viewAll? ts rest]
        rfl
      next => cases h

end

end DeclaredType

theorem decodeCall?_call {f : Function} {types : List DeclaredType} {values : List Value}
    {data : List Datum} (declared : ofSignature? f.signature = some types)
    (views : viewAll? types values = some data) (solid : Kind.areSolid (kinds types) = true)
    (short : (f.call values).length < 2 ^ 256) :
    decodeCall? f.signature (f.call values) = some data := by
  have admits := DeclaredType.admitsAll_of_viewAll? types views
  have arguments :
      (Function.mk f.signature (kinds types)).arguments? (f.call values) = some values :=
    Function.arguments?_call admits solid short
  rw [decodeCall?, declared]
  dsimp only
  rw [arguments]
  exact views

/-! ## Values understood -/

namespace DeclaredType

theorem view?_bytes (b : Bytes) : bytes.view? (.bytes b) = some (.bytes b) := by
  rw [view?]

theorem view?_word (w : Word) : bytes32.view? (.word w) = some (.bytes32 w) := by
  rw [view?]

theorem view?_ofNat {bits n : Nat} (small : n < 2 ^ bits) (word : bits ≤ 256) :
    (uint bits).view? (.ofNat n) = some (.uint n) := by
  have widest : 2 ^ bits ≤ 2 ^ 256 := Nat.pow_le_pow_right (by decide) word
  have within : n < 256 ^ 32 := by
    rw [show (256 : Nat) ^ 32 = 2 ^ 256 by decide]
    omega
  rw [Value.ofNat, view?, FixedBytes.toNat_ofNat within, if_pos small]

theorem view?_ofAddress (a : Address) : address.view? (.ofAddress a) = some (.address a) := by
  have small : a.toNat < 2 ^ 160 := Nat.lt_of_lt_of_le a.toNat_lt (by decide)
  have within : a.toNat < 256 ^ 32 := Nat.lt_of_lt_of_le small (by decide)
  rw [Value.ofAddress, Value.ofNat, view?, FixedBytes.toNat_ofNat within, if_pos small,
    FixedBytes.ofNat_toNat]

theorem view?_ofBool (b : Bool) : bool.view? (.ofBool b) = some (.bool b) := by
  have within : (if b then 1 else 0) < 256 ^ 32 := by
    cases b <;> decide
  rw [Value.ofBool, Value.ofNat, view?, FixedBytes.toNat_ofNat within]
  cases b <;> rfl

theorem viewAll?_cons {t : DeclaredType} {ts : List DeclaredType} {v : Value} {vs : List Value}
    {d : Datum} {ds : List Datum} (first : t.view? v = some d) (rest : viewAll? ts vs = some ds) :
    viewAll? (t :: ts) (v :: vs) = some (d :: ds) := by
  rw [viewAll?, first, rest]

theorem view?_map {α : Type} {item : DeclaredType} {f : α → Value} {g : α → Datum}
    (each : ∀ a, item.view? (f a) = some (g a)) (rows : List α) :
    (array item).view? (.list (rows.map f)) = some (.array (rows.map g)) := by
  rw [view?, mapM_map_eq_some rows each]
  rfl

end DeclaredType

end Registrar.Abi
