import Registrar.Proofs.Actions
import Registrar.Proofs.Signature

/-! Call data says what was asked for: read by the signature of its function it gives back the rows
of a batch, column by column, or the report of an action, and no two requests share it. -/
namespace Registrar.Contract
set_option autoImplicit false

open Abi
open Abi.DeclaredType (ofSignature? viewAll? viewAll?_cons view?_map view?_bytes view?_word
  view?_ofNat view?_ofAddress view?_ofBool)

/-! ## Requests -/

/-- What is asked of the registry and of the ledger. -/
inductive Request where
  | register (entries : List Registry.Entry)
  | delegate (entries : List Ledger.Entry)
  | act (action : DelegationAction) (report : DelegationReport)

namespace Request

def callData : Request → Bytes
  | register entries => Registry.encodeBatch entries
  | delegate entries => Ledger.encodeBatch entries
  | act action report => Ledger.encodeAction action report

def function : Request → Function
  | register _ => Registry.batch
  | delegate _ => Ledger.batch
  | act action _ => Ledger.actionFunction action

def rows : Request → Nat
  | register entries => entries.length
  | delegate entries => entries.length
  | act .. => 1

end Request

def signatureDatum (s : EcdsaSignature) : Datum :=
  .tuple [.uint s.v.toNat, .bytes32 s.r, .bytes32 s.s]

/-- The arguments that say the request: a batch has one array for each field, with the entries of
the batch in order. -/
def Request.arguments : Request → List Datum
  | register entries =>
    [.array (entries.map fun e => .bytes e.pubkey.bytes),
      .array (entries.map fun e => .address e.payoutRecipient),
      .array (entries.map fun e => .uint e.gasLimit.toNat),
      .array (entries.map fun e => .uint e.timestamp.toNat),
      .array (entries.map fun e => .bytes e.signature.bytes)]
  | delegate entries =>
    [.array (entries.map fun e => .bytes e.pubkey.bytes),
      .array (entries.map fun e => .address e.payoutRecipient),
      .array (entries.map fun e => signatureDatum e.signature),
      .array (entries.map fun e => .bool e.registeredInSameBatch)]
  | act _ report =>
    [.bytes report.pubkey.bytes, .uint report.reportedBalance.toNat,
      signatureDatum report.signature]

def Request.values : Request → List Value
  | register entries =>
    [.list (entries.map fun e => .bytes e.pubkey.bytes),
      .list (entries.map fun e => .ofAddress e.payoutRecipient),
      .list (entries.map fun e => .ofNat e.gasLimit.toNat),
      .list (entries.map fun e => .ofNat e.timestamp.toNat),
      .list (entries.map fun e => .bytes e.signature.bytes)]
  | delegate entries =>
    [.list (entries.map fun e => .bytes e.pubkey.bytes),
      .list (entries.map fun e => .ofAddress e.payoutRecipient),
      .list (entries.map fun e => Ledger.signatureValue e.signature),
      .list (entries.map fun e => .ofBool e.registeredInSameBatch)]
  | act _ report =>
    [.bytes report.pubkey.bytes, .ofNat report.reportedBalance.toNat,
      Ledger.signatureValue report.signature]

theorem Request.callData_eq (r : Request) : r.callData = r.function.call r.values := by
  cases r <;> rfl

/-! ## Lengths -/

theorem length_encode_bytes_le (x : Bytes) : (Value.bytes x).encode.length ≤ x.length + 63 := by
  have padded := length_padded_le x
  rw [Value.encode, List.length_append, length_wordOf]
  omega

/-- A column takes an offset, a length, and for each row at most an offset and the row itself. -/
theorem length_encodeAll_columns_le {columns : List (List Value)} {rows most : Nat}
    (sized : ∀ c ∈ columns, c.length = rows)
    (each : ∀ c ∈ columns, ∀ v ∈ c, v.encode.length ≤ most) :
    (encodeAll (columns.map .list)).length ≤ columns.length * (64 + rows * (most + 32)) := by
  induction columns with
  | nil => exact Nat.zero_le _
  | cons c columns ih =>
    rw [List.forall_mem_cons] at sized each
    have first := length_encodeAll_list_le each.1
    have rest := ih sized.2 each.2
    rw [encodeAll, length_layout] at first rest ⊢
    simp only [List.map_cons, List.map_nil, List.sum_cons, List.sum_nil, sized.1] at first rest ⊢
    rw [List.length_cons, Nat.succ_mul]
    omega

theorem length_call_columns_lt {f : Function} (columns : List (List Value)) {rows : Nat}
    (few : columns.length ≤ 5) (short : rows < 2 ^ 64) (sized : ∀ c ∈ columns, c.length = rows)
    (each : ∀ c ∈ columns, ∀ v ∈ c, v.encode.length ≤ 160) :
    (f.call (columns.map .list)).length < 2 ^ 256 := by
  have all := length_encodeAll_columns_le sized each
  have most : columns.length * (64 + rows * (160 + 32)) ≤ 5 * (64 + rows * (160 + 32)) :=
    Nat.mul_le_mul_right _ few
  rw [Function.call, List.length_append, Function.length_selector]
  omega

/-- Where fewer than 2^64 rows are asked for, offsets and lengths are words. -/
theorem Request.length_callData_lt (r : Request) (short : r.rows < 2 ^ 64) :
    r.callData.length < 2 ^ 256 := by
  have key (x : PublicKey) : (Value.bytes x.bytes).encode.length ≤ 160 := by
    have le := length_encode_bytes_le x.bytes
    rw [x.length_bytes] at le
    omega
  have bls (x : BlsSignature) : (Value.bytes x.bytes).encode.length ≤ 160 := by
    have le := length_encode_bytes_le x.bytes
    rw [x.length_bytes] at le
    omega
  have word (n : Nat) : (Value.ofNat n).encode.length ≤ 160 := by
    rw [Value.ofNat, Value.encode, FixedBytes.length_bytes]
    decide
  have signature (s : EcdsaSignature) : (Ledger.signatureValue s).encode.length ≤ 160 := by
    rw [Ledger.length_encode_signatureValue]
    decide
  cases r with
  | register entries =>
    refine length_call_columns_lt [_, _, _, _, _] (Nat.le_refl 5) short ?_ ?_
    · simp [rows]
    · simp [key, bls, word, Value.ofAddress]
  | delegate entries =>
    refine length_call_columns_lt [_, _, _, _] (Nat.le_succ 4) short ?_ ?_
    · simp [rows]
    · simp [key, word, signature, Value.ofAddress, Value.ofBool]
  | act action report => exact Ledger.length_encodeAction_lt action report

/-! ## Reading by the signature -/

def signatureType : DeclaredType :=
  .tuple [.uint 8, .bytes32, .bytes32]

def Request.types : Request → List DeclaredType
  | register _ =>
    [.array .bytes, .array .address, .array (.uint 64), .array (.uint 64), .array .bytes]
  | delegate _ => [.array .bytes, .array .address, .array signatureType, .array .bool]
  | act .. => [.bytes, .uint 256, signatureType]

theorem Request.ofSignature?_signature (r : Request) :
    ofSignature? r.function.signature = some r.types := by
  cases r with
  | register entries =>
    have declared : ofSignature? Registry.batch.signature =
        some [.array .bytes, .array .address, .array (.uint 64), .array (.uint 64),
          .array .bytes] := by cbv
    exact declared
  | delegate entries =>
    have declared : ofSignature? Ledger.batch.signature =
        some [.array .bytes, .array .address, .array (.tuple [.uint 8, .bytes32, .bytes32]),
          .array .bool] := by cbv
    exact declared
  | act action report =>
    have declared : ofSignature? (Ledger.actionFunction action).signature =
        some [.bytes, .uint 256, .tuple [.uint 8, .bytes32, .bytes32]] := by
      cases action <;> cbv
    exact declared

theorem view?_signature (s : EcdsaSignature) :
    signatureType.view? (Ledger.signatureValue s) = some (signatureDatum s) := by
  have fields : viewAll? [.uint 8, .bytes32, .bytes32]
      [.ofNat s.v.toNat, .word s.r, .word s.s] =
        some [.uint s.v.toNat, .bytes32 s.r, .bytes32 s.s] :=
    viewAll?_cons (view?_ofNat s.v.toNat_lt (by decide))
      (viewAll?_cons (view?_word s.r) (viewAll?_cons (view?_word s.s) rfl))
  rw [Ledger.signatureValue, signatureType, DeclaredType.view?, fields]
  rfl

/-- Each value is understood by its type as what the request says. -/
theorem Request.viewAll?_values (r : Request) : viewAll? r.types r.values = some r.arguments := by
  cases r with
  | register entries =>
    refine viewAll?_cons (view?_map (fun e => view?_bytes _) _) ?_
    refine viewAll?_cons (view?_map (fun e => view?_ofAddress _) _) ?_
    refine viewAll?_cons (view?_map (fun e => view?_ofNat e.gasLimit.toNat_lt (by decide)) _) ?_
    refine viewAll?_cons (view?_map (fun e => view?_ofNat e.timestamp.toNat_lt (by decide)) _) ?_
    exact viewAll?_cons (view?_map (fun e => view?_bytes _) _) rfl
  | delegate entries =>
    refine viewAll?_cons (view?_map (fun e => view?_bytes _) _) ?_
    refine viewAll?_cons (view?_map (fun e => view?_ofAddress _) _) ?_
    refine viewAll?_cons (view?_map (fun e => view?_signature _) _) ?_
    exact viewAll?_cons (view?_map (fun e => view?_ofBool _) _) rfl
  | act action report =>
    refine viewAll?_cons (view?_bytes _) ?_
    refine viewAll?_cons (view?_ofNat report.reportedBalance.isLt (by decide)) ?_
    exact viewAll?_cons (view?_signature _) rfl

theorem Request.decodeCall?_callData (r : Request) (short : r.rows < 2 ^ 64) :
    decodeCall? r.function.signature r.callData = some r.arguments := by
  have solid : Kind.areSolid (DeclaredType.kinds r.types) = true := by
    cases r <;> rfl
  have sized := r.length_callData_lt short
  rw [callData_eq] at sized ⊢
  exact decodeCall?_call r.ofSignature?_signature r.viewAll?_values solid sized

/-! ## Telling requests apart -/

theorem selector_batch_ne (action : DelegationAction) :
    Ledger.batch.selector ≠ Registry.batch.selector ∧
      (Ledger.actionFunction action).selector ≠ Registry.batch.selector ∧
        (Ledger.actionFunction action).selector ≠ Ledger.batch.selector := by
  cases action <;> decide +kernel

/-- The request that some call data makes. -/
def Request.ofCallData? (data : Bytes) : Option Request :=
  (Registry.decodeBatch? data).map register <|> (Ledger.decodeBatch? data).map delegate <|>
    (Ledger.decodeAction? .claim data).map (act .claim) <|>
    (Ledger.decodeAction? .exit data).map (act .exit)

theorem Registry.decodeBatch?_call_of_ne {f : Function} (h : f.selector ≠ Registry.batch.selector)
    (values : List Value) : Registry.decodeBatch? (f.call values) = none := by
  rw [decodeBatch?, Function.arguments?_call_of_ne h]

theorem Ledger.decodeBatch?_call_of_ne {f : Function} (h : f.selector ≠ Ledger.batch.selector)
    (values : List Value) : Ledger.decodeBatch? (f.call values) = none := by
  rw [decodeBatch?, Function.arguments?_call_of_ne h]

theorem Request.ofCallData?_callData (r : Request) (short : r.rows < 2 ^ 64) :
    ofCallData? r.callData = some r := by
  have sized := r.length_callData_lt short
  -- The readers that are tried before the right one fail at the selector.
  cases r with
  | register entries =>
    have read := Registry.decodeBatch?_encodeBatch sized
    rw [ofCallData?, callData, read]
    rfl
  | delegate entries =>
    have other : Registry.decodeBatch? (Ledger.encodeBatch entries) = none :=
      Registry.decodeBatch?_call_of_ne (selector_batch_ne .claim).1 _
    have read := Ledger.decodeBatch?_encodeBatch sized
    rw [ofCallData?, callData, other, read]
    rfl
  | act action report =>
    have ne := selector_batch_ne action
    have other : Registry.decodeBatch? (Ledger.encodeAction action report) = none :=
      Registry.decodeBatch?_call_of_ne ne.2.1 _
    have other' : Ledger.decodeBatch? (Ledger.encodeAction action report) = none :=
      Ledger.decodeBatch?_call_of_ne ne.2.2 _
    rw [ofCallData?, callData, other, other', Ledger.decodeAction?_encodeAction,
      Ledger.decodeAction?_encodeAction]
    cases action <;> rfl

/-- Call data says the request: read by the signature of its function it gives the arguments back,
no other request has the same call data, and claims and exits have selectors of their own. A list in
memory has fewer than `2 ^ 64` rows, so its length always fits the word it is written in. -/
theorem callData_says_request :
    (∀ r : Request, r.rows < 2 ^ 64 →
      decodeCall? r.function.signature r.callData = some r.arguments) ∧
    (∀ r r' : Request, r.rows < 2 ^ 64 → r'.rows < 2 ^ 64 → r.callData = r'.callData → r = r') ∧
    ∀ claimed exited : DelegationReport,
      (Ledger.encodeAction .claim claimed).take 4 ≠ (Ledger.encodeAction .exit exited).take 4 := by
  refine ⟨Request.decodeCall?_callData, fun r r' short short' same => ?_, fun claimed exited => ?_⟩
  · have read := r.ofCallData?_callData short
    rw [same, r'.ofCallData?_callData short'] at read
    exact (Option.some.inj read).symm
  · have ne : (Ledger.actionFunction .claim).selector ≠ (Ledger.actionFunction .exit).selector :=
      Ledger.selector_actionFunction_ne nofun
    rw [Ledger.encodeAction, Ledger.encodeAction, Function.call, Function.call,
      List.take_left' (Function.length_selector _), List.take_left' (Function.length_selector _)]
    exact ne

/-- Two rows are read back in their columns, and turned around they make other call data. -/
theorem callData_says_request_rows :
    let first : Registry.Entry :=
      ⟨.replicate 48 0x01, .replicate 20 0xaa, 30000000, 1700000000, .replicate 96 0x02⟩
    let second : Registry.Entry :=
      ⟨.replicate 48 0x03, .replicate 20 0xbb, 0xffffffffffffffff, 0, .replicate 96 0x04⟩
    decodeCall? "batchRegisterProposers(bytes[],address[],uint64[],uint64[],bytes[])"
        (Registry.encodeBatch [first, second]) =
      some
        [.array [.bytes (.replicate 48 0x01), .bytes (.replicate 48 0x03)],
          .array [.address (.replicate 20 0xaa), .address (.replicate 20 0xbb)],
          .array [.uint 30000000, .uint 0xffffffffffffffff],
          .array [.uint 1700000000, .uint 0],
          .array [.bytes (.replicate 96 0x02), .bytes (.replicate 96 0x04)]] ∧
    Registry.encodeBatch [first, second] ≠ Registry.encodeBatch [second, first] := by
  intro first second
  have short : 2 < 2 ^ 64 := by decide
  constructor
  · exact callData_says_request.1 (.register [first, second]) short
  · intro same
    have requests := callData_says_request.2.1 (.register [first, second])
      (.register [second, first]) short short same
    injection requests with rows
    injection rows with rows
    exact absurd rows (by decide)

end Registrar.Contract
