import Registrar.Contract.Ledger
import Registrar.Contract.Multicall
import Registrar.Contract.Registry
import Registrar.Proofs.Bytes

/-! Encoded values are read back: one by one, in sequence, and as the rows of a batch, the calls of an
aggregate or the records that a look-up shows. -/
namespace Registrar
set_option autoImplicit false

namespace Abi

/-! ## Places in a sequence -/

theorem behind?_eq_some {k : Nat} {base rest : Bytes} :
    behind? k base = some rest ↔ ∃ front : Bytes, front.length = k ∧ base = front ++ rest := by
  induction k generalizing base with
  | zero => simp [behind?, eq_comm]
  | succ k ih =>
    cases base with
    | nil => simp [behind?]
    | cons b base =>
      rw [behind?, ih]
      constructor
      · rintro ⟨front, rfl, rfl⟩
        exact ⟨b :: front, rfl, rfl⟩
      · rintro ⟨_ | ⟨b', front⟩, length, same⟩
        · cases length
        · obtain ⟨rfl, rfl⟩ := List.cons.inj same
          exact ⟨front, Nat.succ.inj length, rfl⟩

/-- Behind what stands behind the first bytes. -/
theorem behind?_add {k : Nat} {base front rest : Bytes} (h : behind? k base = some (front ++ rest)) :
    behind? (k + front.length) base = some rest := by
  obtain ⟨before, rfl, rfl⟩ := behind?_eq_some.1 h
  exact behind?_eq_some.2 ⟨before ++ front, List.length_append, (List.append_assoc ..).symm⟩

theorem le_of_behind? {k : Nat} {base rest : Bytes} (h : behind? k base = some rest) :
    k ≤ base.length ∧ rest.length ≤ base.length := by
  obtain ⟨front, rfl, rfl⟩ := behind?_eq_some.1 h
  rw [List.length_append]
  exact ⟨Nat.le_add_right .., Nat.le_add_left ..⟩

/-! ## Words -/

theorem length_wordOf (n : Nat) : (wordOf n).length = 32 :=
  FixedBytes.length_bytesOfNat 32 n

namespace Cursor

variable {base rest : Bytes}

theorem take?_append {front : Bytes} {k : Nat} (h : front.length = k) :
    (Cursor.mk base (front ++ rest)).take? k = some (front, ⟨base, rest⟩) := by
  subst h
  simp [take?]

theorem word?_bytes (w : Word) :
    (Cursor.mk base (w.bytes ++ rest)).word? = some (w, ⟨base, rest⟩) := by
  rw [word?, take?_append w.length_bytes]
  simp

theorem nat?_wordOf {n : Nat} (h : n < 2 ^ 256) :
    (Cursor.mk base (wordOf n ++ rest)).nat? = some (n, ⟨base, rest⟩) := by
  have small : n < 256 ^ 32 := by
    rwa [show (256 : Nat) ^ 32 = 2 ^ 256 by decide]
  have read : (Cursor.mk base (wordOf n ++ rest)).word? = some (.ofNat n, ⟨base, rest⟩) :=
    word?_bytes (FixedBytes.ofNat n)
  rw [nat?, read, Option.map_some]
  dsimp only
  rw [FixedBytes.toNat_ofNat small]

theorem follow?_wordOf {offset : Nat} {child : Bytes} (short : base.length < 2 ^ 256)
    (placed : behind? offset base = some child) :
    (Cursor.mk base (wordOf offset ++ rest)).follow? = some (start child, ⟨base, rest⟩) := by
  have inside := (le_of_behind? placed).1
  rw [follow?, nat?_wordOf (Nat.lt_of_le_of_lt inside short)]
  dsimp only
  rw [placed]
  rfl

end Cursor

/-! ## Layouts -/

theorem headLength_cons (p : Part) (rest : List Part) :
    headLength (p :: rest) = p.headLength + headLength rest := rfl

theorem length_heads (tailAt : Nat) (parts : List Part) :
    (heads tailAt parts).length = headLength parts := by
  induction parts generalizing tailAt with
  | nil => rfl
  | cons p rest ih =>
    rw [heads, headLength_cons, Part.headLength]
    split <;> simp [ih, length_wordOf]

theorem behind?_layout (parts : List Part) (junk : Bytes) :
    behind? (headLength parts) (layout parts ++ junk) = some (tails parts ++ junk) := by
  rw [layout, List.append_assoc]
  exact behind?_eq_some.2 ⟨_, length_heads .., rfl⟩

theorem length_padded_le (b : Bytes) : (padded b).length ≤ b.length + 31 := by
  rw [padded, List.length_append, List.length_replicate]
  omega

theorem length_tails_cons (v : Value) (rest : List Value) :
    (tails (partsOf (v :: rest))).length =
      (if v.isDynamic then v.encode.length else 0) + (tails (partsOf rest)).length := by
  rw [partsOf, tails]
  split <;> simp

/-- How long values in sequence are: each takes its encoding, and an offset if it is dynamic. -/
theorem length_layout (values : List Value) :
    (layout (partsOf values)).length =
      (values.map fun v => (if v.isDynamic then 32 else 0) + v.encode.length).sum := by
  rw [layout, List.length_append, length_heads]
  induction values with
  | nil => rfl
  | cons v rest ih =>
    rw [length_tails_cons, List.map_cons, List.sum_cons, ← ih, partsOf, headLength_cons,
      Part.headLength]
    dsimp only
    split <;> omega

theorem tails_of_static {values : List Value} (h : anyDynamic values = false) :
    tails (partsOf values) = [] := by
  induction values with
  | nil => rfl
  | cons v rest ih =>
    rw [anyDynamic, Bool.or_eq_false_iff] at h
    rw [partsOf, tails, if_neg (by simp [h.1])]
    exact ih h.2

/-- What one value puts among the heads. -/
def headOf (tailAt : Nat) (v : Value) : Bytes :=
  if v.isDynamic then wordOf tailAt else v.encode

/-- Where the values behind `v` have their tails. -/
def tailBehind (tailAt : Nat) (v : Value) : Nat :=
  if v.isDynamic then tailAt + v.encode.length else tailAt

theorem heads_cons (tailAt : Nat) (v : Value) (rest : List Value) :
    heads tailAt (partsOf (v :: rest)) =
      headOf tailAt v ++ heads (tailBehind tailAt v) (partsOf rest) := by
  rw [partsOf, heads, headOf, tailBehind]
  split <;> rfl

/-! ## Kinds -/

mutual

/-- Every value of the kind takes some room. -/
def Kind.isSolid : Kind → Bool
  | .word | .bytes => true
  | .list item => item.isSolid
  | .record [] => false
  | .record (kind :: kinds) => kind.isSolid && Kind.areSolid kinds

def Kind.areSolid : List Kind → Bool
  | [] => true
  | kind :: kinds => kind.isSolid && Kind.areSolid kinds

end

mutual

theorem isDynamic_of_admits {k : Kind} {v : Value} (h : k.admits v = true) :
    k.isDynamic = v.isDynamic := by
  match k, v with
  | .word, .word _ | .bytes, .bytes _ | .list _, .list _ => rfl
  | .record kinds, .record fields =>
    rw [Kind.isDynamic, Value.isDynamic]
    exact anyDynamic_of_admitsAll h

theorem anyDynamic_of_admitsAll {ks : List Kind} {vs : List Value}
    (h : Kind.admitsAll ks vs = true) : Kind.anyDynamic ks = anyDynamic vs := by
  match ks, vs with
  | [], [] => rfl
  | k :: ks, v :: vs =>
    rw [Kind.admitsAll, Bool.and_eq_true] at h
    rw [Kind.anyDynamic, anyDynamic, isDynamic_of_admits h.1, anyDynamic_of_admitsAll h.2]

end

theorem areSolid_of_isSolid {kinds : List Kind} (h : (Kind.record kinds).isSolid = true) :
    Kind.areSolid kinds = true := by
  cases kinds with
  | nil => rfl
  | cons kind kinds => exact h

theorem length_encode_pos {k : Kind} {v : Value} (solid : k.isSolid = true)
    (h : k.admits v = true) : 0 < v.encode.length := by
  match k, v with
  | .word, .word w => simp [Value.encode, w.length_bytes]
  | .bytes, .bytes b =>
    rw [Value.encode, List.length_append, length_wordOf]
    omega
  | .list item, .list items =>
    rw [Value.encode, List.length_append, length_wordOf]
    omega
  | .record (kind :: kinds), .record (v :: vs) =>
    rw [Kind.isSolid, Bool.and_eq_true] at solid
    rw [Kind.admits, Kind.admitsAll, Bool.and_eq_true] at h
    have first : 0 < v.encode.length := length_encode_pos solid.1 h.1
    have head : 0 < Part.headLength ⟨v.isDynamic, v.encode⟩ := by
      rw [Part.headLength]
      split
      · decide
      · exact first
    rw [Value.encode, layout, List.length_append, length_heads, partsOf, headLength_cons]
    omega

theorem length_le_layout {k : Kind} {vs : List Value} (solid : k.isSolid = true)
    (h : ∀ v ∈ vs, k.admits v = true) : vs.length ≤ (layout (partsOf vs)).length := by
  have heads : vs.length ≤ headLength (partsOf vs) := by
    induction vs with
    | nil => exact Nat.le_refl _
    | cons v vs ih =>
      have first := length_encode_pos solid (h v List.mem_cons_self)
      have others := ih fun v hv => h v (List.mem_cons_of_mem _ hv)
      have head : 0 < Part.headLength ⟨v.isDynamic, v.encode⟩ := by
        rw [Part.headLength]
        split
        · decide
        · exact first
      rw [partsOf, headLength_cons, List.length_cons]
      omega
  rw [layout, List.length_append, length_heads]
  omega

/-! ## Reading values -/

/-- Where a sequence has its tails, its first value has its own, and so have the others. -/
theorem placed_cons {base junk : Bytes} {tailAt : Nat} {v : Value} {vs : List Value}
    (placed : anyDynamic (v :: vs) = true →
      behind? tailAt base = some (tails (partsOf (v :: vs)) ++ junk)) :
    (v.isDynamic = true →
        behind? tailAt base = some (v.encode ++ (tails (partsOf vs) ++ junk))) ∧
      (anyDynamic vs = true →
        behind? (tailBehind tailAt v) base = some (tails (partsOf vs) ++ junk)) := by
  rw [anyDynamic, partsOf, tails] at placed
  rw [tailBehind]
  cases hv : v.isDynamic with
  | true =>
    simp only [hv, Bool.true_or, if_true, List.append_assoc, forall_const] at placed ⊢
    exact ⟨placed, fun _ => behind?_add placed⟩
  | false =>
    simp only [hv, Bool.false_or, Bool.false_eq_true, if_false] at placed ⊢
    exact ⟨nofun, placed⟩

mutual

/-- A value is read from its head, the tail being where the head says. -/
theorem read_value (v : Value) {k : Kind} (h : k.admits v = true) (solid : k.isSolid = true)
    {base junk : Bytes} {tailAt : Nat} (short : base.length < 2 ^ 256)
    (placed : v.isDynamic = true → behind? tailAt base = some (v.encode ++ junk)) (after : Bytes) :
    k.read ⟨base, headOf tailAt v ++ after⟩ = some (v, ⟨base, after⟩) := by
  match k, v with
  | .word, .word w =>
    have head : headOf tailAt (.word w) = w.bytes := rfl
    rw [Kind.read, head, Cursor.word?_bytes]
    rfl
  | .bytes, .bytes b =>
    have head : headOf tailAt (.bytes b) = wordOf tailAt := rfl
    have tail := placed rfl
    have size : b.length < 2 ^ 256 := by
      have inside := (le_of_behind? tail).2
      simp only [Value.encode, padded, List.length_append] at inside
      omega
    rw [Value.encode, padded, List.append_assoc, List.append_assoc] at tail
    rw [Kind.read, head, Cursor.follow?_wordOf short tail]
    dsimp only [Cursor.start]
    rw [Cursor.nat?_wordOf size]
    dsimp only
    rw [Cursor.take?_append rfl]
    rfl
  | .list item, .list items =>
    have head : headOf tailAt (.list items) = wordOf tailAt := rfl
    have tail := placed rfl
    have inside := (le_of_behind? tail).2
    rw [Kind.admits, List.all_eq_true] at h
    rw [Kind.isSolid] at solid
    have room := length_le_layout solid h
    rw [Value.encode, List.append_assoc] at tail inside
    simp only [List.length_append] at inside
    have size : items.length < 2 ^ 256 := by omega
    have enough : ¬(layout (partsOf items) ++ junk).length < items.length := by
      rw [List.length_append]
      omega
    have within : (layout (partsOf items) ++ junk).length < 2 ^ 256 := by
      rw [List.length_append]
      omega
    rw [Kind.read, head, Cursor.follow?_wordOf short tail]
    dsimp only [Cursor.start]
    rw [Cursor.nat?_wordOf size]
    dsimp only
    rw [if_neg enough]
    have read := repeatRead_values items h solid within (fun _ => behind?_layout _ junk)
      (tails (partsOf items) ++ junk)
    rw [← List.append_assoc, ← layout] at read
    dsimp only [Cursor.rebase, Cursor.start]
    rw [read]
    rfl
  | .record kinds, .record fields =>
    rw [Kind.admits] at h
    rw [Kind.read, anyDynamic_of_admitsAll h]
    cases hv : anyDynamic fields with
    | true =>
      have head : headOf tailAt (.record fields) = wordOf tailAt := if_pos hv
      have tail := placed hv
      have within := Nat.lt_of_le_of_lt (le_of_behind? tail).2 short
      rw [Value.encode] at tail within
      rw [if_pos rfl, head, Cursor.follow?_wordOf short tail]
      have read := readAll_values fields h (areSolid_of_isSolid solid) within
        (fun _ => behind?_layout _ junk) (tails (partsOf fields) ++ junk)
      rw [← List.append_assoc, ← layout] at read
      dsimp only [Cursor.start]
      rw [read]
      rfl
    | false =>
      have head : headOf tailAt (.record fields) =
          heads (headLength (partsOf fields)) (partsOf fields) := by
        rw [headOf, Value.isDynamic, hv, if_neg Bool.false_ne_true, Value.encode, layout,
          tails_of_static hv, List.append_nil]
      have tailless : anyDynamic fields = true → behind? (headLength (partsOf fields)) base =
          some (tails (partsOf fields) ++ junk) :=
        fun dynamic => absurd (hv.symm.trans dynamic) Bool.false_ne_true
      rw [if_neg Bool.false_ne_true, head,
        readAll_values fields h (areSolid_of_isSolid solid) short tailless after]
      rfl

theorem readAll_values (vs : List Value) {ks : List Kind} (h : Kind.admitsAll ks vs = true)
    (solid : Kind.areSolid ks = true) {base junk : Bytes} {tailAt : Nat}
    (short : base.length < 2 ^ 256)
    (placed : anyDynamic vs = true → behind? tailAt base = some (tails (partsOf vs) ++ junk))
    (after : Bytes) :
    readAll ks ⟨base, heads tailAt (partsOf vs) ++ after⟩ = some (vs, ⟨base, after⟩) := by
  match ks, vs with
  | [], [] => rfl
  | k :: ks, v :: vs =>
    obtain ⟨first, others⟩ := placed_cons placed
    rw [Kind.admitsAll, Bool.and_eq_true] at h
    rw [Kind.areSolid, Bool.and_eq_true] at solid
    rw [readAll, heads_cons, List.append_assoc, read_value v h.1 solid.1 short first]
    dsimp only
    rw [readAll_values vs h.2 solid.2 short others]

theorem repeatRead_values (vs : List Value) {k : Kind} (h : ∀ v ∈ vs, k.admits v = true)
    (solid : k.isSolid = true) {base junk : Bytes} {tailAt : Nat} (short : base.length < 2 ^ 256)
    (placed : anyDynamic vs = true → behind? tailAt base = some (tails (partsOf vs) ++ junk))
    (after : Bytes) :
    repeatRead k.read vs.length ⟨base, heads tailAt (partsOf vs) ++ after⟩ = some vs := by
  match vs with
  | [] => rfl
  | v :: vs =>
    obtain ⟨first, others⟩ := placed_cons placed
    rw [List.length_cons, repeatRead, heads_cons, List.append_assoc,
      read_value v (h v List.mem_cons_self) solid short first]
    dsimp only
    rw [repeatRead_values vs (fun v hv => h v (List.mem_cons_of_mem _ hv)) solid short others]
    rfl

end

theorem decodeAll_encodeAll {kinds : List Kind} {values : List Value}
    (h : Kind.admitsAll kinds values = true) (solid : Kind.areSolid kinds = true)
    (short : (encodeAll values).length < 2 ^ 256) :
    decodeAll kinds (encodeAll values) = some values := by
  have placed : behind? (headLength (partsOf values)) (encodeAll values) =
      some (tails (partsOf values) ++ []) := by
    have whole := behind?_layout (partsOf values) []
    rwa [List.append_nil] at whole
  have read := readAll_values values h solid short (fun _ => placed) (tails (partsOf values))
  rw [← layout, ← encodeAll] at read
  rw [decodeAll, Cursor.start, read]
  rfl

theorem length_encodeAll_list_le {values : List Value} {most : Nat}
    (h : ∀ v ∈ values, v.encode.length ≤ most) :
    (encodeAll [.list values]).length ≤ 64 + values.length * (most + 32) := by
  have items : (layout (partsOf values)).length ≤ values.length * (most + 32) := by
    induction values with
    | nil => exact Nat.zero_le _
    | cons v rest ih =>
      have first := h v List.mem_cons_self
      have others := ih fun v hv => h v (List.mem_cons_of_mem _ hv)
      rw [length_layout] at others ⊢
      rw [List.map_cons, List.sum_cons, List.length_cons, Nat.succ_mul]
      split <;> omega
  rw [encodeAll, length_layout]
  simp only [List.map_cons, List.map_nil, Value.isDynamic, Value.encode, List.length_append,
    length_wordOf, List.sum_cons, List.sum_nil, if_true]
  omega

theorem length_encodeAll_words (values : List Value)
    (h : ∀ v ∈ values, ∃ w : Word, v = .word w) :
    (encodeAll values).length = 32 * values.length := by
  rw [encodeAll, length_layout]
  induction values with
  | nil => rfl
  | cons v rest ih =>
    obtain ⟨w, rfl⟩ := h v List.mem_cons_self
    rw [List.map_cons, List.sum_cons, ih fun v hv => h v (List.mem_cons_of_mem _ hv)]
    simp only [Value.isDynamic, Value.encode, FixedBytes.length_bytes, List.length_cons]
    simp only [Bool.false_eq_true, if_false]
    omega

/-! ## Calls -/

theorem Function.length_selector (f : Function) : f.selector.length = 4 := by
  rw [selector, List.length_take, FixedBytes.length_bytes]
  rfl

theorem Function.arguments?_call {f : Function} {values : List Value}
    (h : Kind.admitsAll f.arguments values = true) (solid : Kind.areSolid f.arguments = true)
    (short : (f.call values).length < 2 ^ 256) : f.arguments? (f.call values) = some values := by
  have within : (encodeAll values).length < 2 ^ 256 := by
    rw [call, List.length_append] at short
    omega
  have selected : (f.call values).take 4 = f.selector := by
    rw [call, List.take_left' f.length_selector]
  have behind : (f.call values).drop 4 = encodeAll values := by
    rw [call, List.drop_left' f.length_selector]
  rw [arguments?, if_pos selected, behind, decodeAll_encodeAll h solid within]

theorem Function.arguments?_call_of_ne {f f' : Function} (h : f.selector ≠ f'.selector)
    (values : List Value) : f'.arguments? (f.call values) = none := by
  rw [arguments?, call, List.take_left' f.length_selector, if_neg h]

/-! ## Words -/

namespace Value

theorem toNat?_ofNat {n : Nat} (h : n < 2 ^ 256) : (ofNat n).toNat? = some n := by
  have small : n < 256 ^ 32 := by
    rwa [show (256 : Nat) ^ 32 = 2 ^ 256 by decide]
  rw [ofNat, toNat?, FixedBytes.toNat_ofNat small]

@[simp] theorem toAddress?_ofAddress (a : FixedBytes 20) : (ofAddress a).toAddress? = some a := by
  have small : a.toNat < 2 ^ 256 := Nat.lt_trans a.toNat_lt (by decide)
  rw [toAddress?, ofAddress, toNat?_ofNat small, Option.map_some, FixedBytes.ofNat_toNat]

@[simp] theorem toWord64?_ofNat (n : UInt64) : (ofNat n.toNat).toWord64? = some n := by
  have small : n.toNat < 2 ^ 256 := Nat.lt_trans n.toNat_lt (by decide)
  rw [toWord64?, toNat?_ofNat small, Option.map_some, UInt64.ofNat_toNat]

@[simp] theorem toByte?_ofNat (b : UInt8) : (ofNat b.toNat).toByte? = some b := by
  have small : b.toNat < 2 ^ 256 := Nat.lt_trans b.toNat_lt (by decide)
  rw [toByte?, toNat?_ofNat small, Option.map_some, UInt8.ofNat_toNat]

@[simp] theorem toBool?_ofBool (b : Bool) : (ofBool b).toBool? = some b := by
  cases b <;> decide +kernel

end Value

end Abi

/-! ## Rows -/

theorem mapM_map_eq_some {α β γ : Type} {f : α → β} {g : β → Option γ} {h : α → γ}
    (items : List α) (each : ∀ a, g (f a) = some (h a)) :
    (items.map f).mapM g = some (items.map h) := by
  induction items with
  | nil => rfl
  | cons a rest ih => simp [List.mapM_cons, each, ih]

theorem all_map_admits {α : Type} (k : Abi.Kind) (f : α → Abi.Value)
    (each : ∀ a, k.admits (f a) = true) (items : List α) :
    (Abi.Kind.list k).admits (.list (items.map f)) = true := by
  rw [Abi.Kind.admits, List.all_eq_true]
  intro v hv
  obtain ⟨a, -, rfl⟩ := List.mem_map.1 hv
  exact each a

namespace Contract

open Abi

theorem Registry.zipEntries_map (entries : List Registry.Entry) :
    Registry.zipEntries (entries.map (·.pubkey.bytes)) (entries.map (·.payoutRecipient))
      (entries.map (·.gasLimit)) (entries.map (·.timestamp)) (entries.map (·.signature.bytes)) =
      some entries := by
  induction entries with
  | nil => rfl
  | cons entry rest ih => simp [zipEntries, ih]

theorem Registry.decodeBatch?_encodeBatch {entries : List Registry.Entry}
    (short : (Registry.encodeBatch entries).length < 2 ^ 256) :
    Registry.decodeBatch? (Registry.encodeBatch entries) = some entries := by
  have admits : Kind.admitsAll batch.arguments
      [.list (entries.map fun e => .bytes e.pubkey.bytes),
        .list (entries.map fun e => .ofAddress e.payoutRecipient),
        .list (entries.map fun e => .ofNat e.gasLimit.toNat),
        .list (entries.map fun e => .ofNat e.timestamp.toNat),
        .list (entries.map fun e => .bytes e.signature.bytes)] = true := by
    simp only [batch, Kind.admitsAll, Bool.and_eq_true, and_true]
    refine ⟨?_, ?_, ?_, ?_, ?_⟩ <;> exact all_map_admits _ _ (fun _ => rfl) _
  have arguments := Function.arguments?_call admits rfl short
  unfold decodeBatch? encodeBatch
  rw [arguments]
  dsimp only
  rw [mapM_map_eq_some entries fun e => (rfl : Value.toBytes? (.bytes e.pubkey.bytes) = some _),
    mapM_map_eq_some entries fun e => Value.toAddress?_ofAddress e.payoutRecipient,
    mapM_map_eq_some entries fun e => Value.toWord64?_ofNat e.gasLimit,
    mapM_map_eq_some entries fun e => Value.toWord64?_ofNat e.timestamp,
    mapM_map_eq_some entries fun e => (rfl : Value.toBytes? (.bytes e.signature.bytes) = some _)]
  exact zipEntries_map entries

theorem Ledger.signatureOf?_signatureValue (s : EcdsaSignature) :
    Ledger.signatureOf? (Ledger.signatureValue s) = some s := by
  simp [signatureOf?, signatureValue, Value.toWord?]

theorem Ledger.zipEntries_map (entries : List Ledger.Entry) :
    Ledger.zipEntries (entries.map (·.pubkey.bytes)) (entries.map (·.payoutRecipient))
      (entries.map (·.signature)) (entries.map (·.registeredInSameBatch)) = some entries := by
  induction entries with
  | nil => rfl
  | cons entry rest ih => simp [zipEntries, ih]

theorem Ledger.decodeBatch?_encodeBatch {entries : List Ledger.Entry}
    (short : (Ledger.encodeBatch entries).length < 2 ^ 256) :
    Ledger.decodeBatch? (Ledger.encodeBatch entries) = some entries := by
  have admits : Kind.admitsAll batch.arguments
      [.list (entries.map fun e => .bytes e.pubkey.bytes),
        .list (entries.map fun e => .ofAddress e.payoutRecipient),
        .list (entries.map fun e => signatureValue e.signature),
        .list (entries.map fun e => .ofBool e.registeredInSameBatch)] = true := by
    simp only [batch, Kind.admitsAll, Bool.and_eq_true, and_true]
    refine ⟨?_, ?_, ?_, ?_⟩ <;> exact all_map_admits _ _ (fun _ => rfl) _
  have arguments := Function.arguments?_call admits rfl short
  unfold decodeBatch? encodeBatch
  rw [arguments]
  dsimp only
  rw [mapM_map_eq_some entries fun e => (rfl : Value.toBytes? (.bytes e.pubkey.bytes) = some _),
    mapM_map_eq_some entries fun e => Value.toAddress?_ofAddress e.payoutRecipient,
    mapM_map_eq_some entries fun e => signatureOf?_signatureValue e.signature,
    mapM_map_eq_some entries fun e => Value.toBool?_ofBool e.registeredInSameBatch]
  exact zipEntries_map entries

/-! ## Aggregates -/

theorem Multicall.Call.ofValue?_toValue (c : Multicall.Call) :
    Multicall.Call.ofValue? c.toValue = some c := by
  simp [ofValue?, toValue, Value.toBytes?]

theorem Multicall.decode?_encode {calls : List Multicall.Call}
    (short : (Multicall.encode calls).length < 2 ^ 256) :
    Multicall.decode? (Multicall.encode calls) = some calls := by
  have admits : Kind.admitsAll aggregate.arguments [.list (calls.map Call.toValue)] = true := by
    simp only [aggregate, Kind.admitsAll, Bool.and_true]
    exact all_map_admits _ _ (fun _ => rfl) _
  have arguments := Function.arguments?_call admits rfl short
  unfold decode? encode
  rw [arguments]
  dsimp only
  rw [mapM_map_eq_some calls Call.ofValue?_toValue, List.map_id']

theorem Multicall.Answer.ofValue?_toValue (a : Multicall.Answer) :
    Multicall.Answer.ofValue? a.toValue = some a := by
  simp [ofValue?, toValue, Value.toBytes?]

theorem Multicall.decodeAnswers?_encodeAnswers {answers : List Multicall.Answer}
    (short : (Multicall.encodeAnswers answers).length < 2 ^ 256) :
    Multicall.decodeAnswers? (Multicall.encodeAnswers answers) = some answers := by
  have admits : Kind.admitsAll [.list (.record [.word, .bytes])]
      [.list (answers.map Answer.toValue)] = true := by
    simp only [Kind.admitsAll, Bool.and_true]
    exact all_map_admits _ _ (fun _ => rfl) _
  unfold decodeAnswers? encodeAnswers
  rw [decodeAll_encodeAll admits rfl short]
  dsimp only
  rw [mapM_map_eq_some answers Answer.ofValue?_toValue, List.map_id']

theorem Multicall.Answer.length_encode_le (a : Multicall.Answer) :
    a.toValue.encode.length ≤ a.data.length + 159 := by
  have padded := length_padded_le a.data
  simp only [toValue, Value.encode, length_layout, List.map_cons, List.map_nil, Value.isDynamic,
    Value.ofBool, Value.ofNat, FixedBytes.length_bytes, List.length_append, length_wordOf,
    List.sum_cons, List.sum_nil]
  simp only [Bool.false_eq_true, if_false, if_true]
  omega

theorem Multicall.length_encodeAnswers_le {answers : List Multicall.Answer} {most : Nat}
    (h : ∀ a ∈ answers, a.data.length ≤ most) :
    (Multicall.encodeAnswers answers).length ≤ 64 + answers.length * (most + 191) := by
  have items : ∀ v ∈ answers.map Answer.toValue, v.encode.length ≤ most + 159 :=
    List.forall_mem_map.2 fun a ha =>
      Nat.le_trans a.length_encode_le (Nat.add_le_add_right (h a ha) 159)
  have whole := length_encodeAll_list_le items
  rwa [List.length_map, Nat.add_assoc most] at whole

theorem Multicall.Call.length_encode_le (c : Multicall.Call) :
    c.toValue.encode.length ≤ c.data.length + 191 := by
  have padded := length_padded_le c.data
  simp only [toValue, Value.encode, length_layout, List.map_cons, List.map_nil, Value.isDynamic,
    Value.ofBool, Value.ofNat, Value.ofAddress, FixedBytes.length_bytes, List.length_append,
    length_wordOf, List.sum_cons, List.sum_nil]
  simp only [Bool.false_eq_true, if_false, if_true]
  omega

theorem Multicall.length_encode_le {calls : List Multicall.Call} {most : Nat}
    (h : ∀ c ∈ calls, c.data.length ≤ most) :
    (Multicall.encode calls).length ≤ 68 + calls.length * (most + 223) := by
  have items : ∀ v ∈ calls.map Call.toValue, v.encode.length ≤ most + 191 :=
    List.forall_mem_map.2 fun c hc =>
      Nat.le_trans c.length_encode_le (Nat.add_le_add_right (h c hc) 191)
  have whole : (encodeAll [.list (calls.map Call.toValue)]).length ≤
      64 + (calls.map Call.toValue).length * (most + 223) := length_encodeAll_list_le items
  rw [List.length_map] at whole
  rw [encode, Function.call, List.length_append, Function.length_selector]
  omega

/-! ## Records -/

theorem Registry.ProposerInfo.length_encode (i : Registry.ProposerInfo) : i.encode.length = 96 := by
  refine length_encodeAll_words _ fun v hv => ?_
  simp only [List.mem_cons, List.not_mem_nil, or_false] at hv
  obtain rfl | rfl | rfl := hv <;> exact ⟨_, rfl⟩

theorem Registry.ProposerInfo.decode?_encode (i : Registry.ProposerInfo) :
    Registry.ProposerInfo.decode? i.encode = some i := by
  have short : i.encode.length < 2 ^ 256 := by
    rw [i.length_encode]
    decide
  unfold decode?
  rw [encode] at short ⊢
  rw [decodeAll_encodeAll rfl rfl short]
  simp

theorem Ledger.DelegationInfo.length_encode (i : Ledger.DelegationInfo) :
    i.encode.length = 96 := by
  refine length_encodeAll_words _ fun v hv => ?_
  simp only [List.mem_cons, List.not_mem_nil, or_false] at hv
  obtain rfl | rfl | rfl := hv <;> exact ⟨_, rfl⟩

theorem Ledger.DelegationInfo.decode?_encode (i : Ledger.DelegationInfo) :
    Ledger.DelegationInfo.decode? i.encode = some i := by
  have short : i.encode.length < 2 ^ 256 := by
    rw [i.length_encode]
    decide
  unfold decode?
  rw [encode] at short ⊢
  rw [decodeAll_encodeAll rfl rfl short]
  simp

end Contract

end Registrar
