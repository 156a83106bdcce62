import Registrar.Proofs.Holdings

/-! Statuses in words. Whatever an authority returns, its status is made from three words of the
data, each in its place, and of these only from the lowest bytes. -/
namespace Registrar
set_option autoImplicit false

open Abi Contract

/-! ## Words -/

/-- The lowest `k` bytes of the word with the index `i`. -/
def wordTail (i k : Nat) (data : Bytes) : Bytes :=
  (data.drop (32 * i + (32 - k))).take k

theorem exists_words {n : Nat} {data : Bytes} (long : 32 * n ≤ data.length) :
    ∃ (ws : List Word) (rest : Bytes), ws.length = n ∧ data = ws.flatMap (·.bytes) ++ rest := by
  induction n generalizing data with
  | zero => exact ⟨[], data, rfl, rfl⟩
  | succ n ih =>
    have first : (data.take 32).length = 32 := by
      rw [List.length_take]
      omega
    have behind : 32 * n ≤ (data.drop 32).length := by
      rw [List.length_drop]
      omega
    obtain ⟨ws, rest, length, split⟩ := ih behind
    refine ⟨⟨data.take 32, first⟩ :: ws, rest, by simp [length], ?_⟩
    rw [List.flatMap_cons, List.append_assoc, ← split, List.take_append_drop]

theorem wordTail_words {ws : List Word} {rest : Bytes} {i k : Nat} {w : Word}
    (h : ws[i]? = some w) (hk : k ≤ 32) :
    wordTail i k (ws.flatMap (·.bytes) ++ rest) = w.bytes.drop (32 - k) := by
  unfold wordTail
  induction ws generalizing i with
  | nil => simp at h
  | cons v ws ih =>
    have width : v.bytes.length = 32 := v.length_bytes
    rw [List.flatMap_cons, List.append_assoc]
    cases i with
    | zero =>
      obtain rfl : v = w := by simpa using h
      have left : (v.bytes.drop (32 - k)).length = k := by
        rw [List.length_drop]
        omega
      rw [Nat.mul_zero, Nat.zero_add, List.drop_append_of_le_length (by omega), List.take_left' left]
    | succ i =>
      have past : 32 * (i + 1) + (32 - k) = v.bytes.length + (32 * i + (32 - k)) := by omega
      rw [past, List.drop_length_add_append]
      exact ih (by simpa using h)

theorem readAll_words (ws : List Word) (base rest : Bytes) :
    readAll (List.replicate ws.length .word) ⟨base, ws.flatMap (·.bytes) ++ rest⟩ =
      some (ws.map .word, ⟨base, rest⟩) := by
  induction ws with
  | nil => rfl
  | cons w ws ih =>
    rw [List.length_cons, List.replicate_succ, List.flatMap_cons, List.append_assoc, readAll,
      Kind.read, Cursor.word?_bytes]
    dsimp only [Option.map_some]
    rw [ih]
    rfl

theorem readAll_short {n : Nat} {base data : Bytes} (short : data.length < 32 * n) :
    readAll (List.replicate n .word) ⟨base, data⟩ = none := by
  induction n generalizing data with
  | zero => omega
  | succ n ih =>
    rw [List.replicate_succ, readAll, Kind.read]
    by_cases one : 32 ≤ data.length
    · obtain ⟨ws, rest, length, rfl⟩ := exists_words (n := 1) one
      obtain ⟨w, rfl⟩ := List.length_eq_one_iff.1 length
      have fewer : rest.length < 32 * n := by
        have width : w.bytes.length = 32 := w.length_bytes
        simp [width] at short
        omega
      rw [List.flatMap_singleton, Cursor.word?_bytes]
      dsimp only [Option.map_some]
      rw [ih fewer]
    · have none : (Cursor.mk base data).word? = none := by
        have less : (data.take 32).length ≠ 32 := by
          rw [List.length_take]
          omega
        simp only [Cursor.word?, Cursor.take?, if_neg less]
      rw [none]
      rfl

/-! ## Narrowing -/

theorem bytes_toAddress (w : Word) : (FixedBytes.ofNat w.toNat : Address).bytes = w.bytes.drop 12 := by
  have width : w.bytes.length = 32 := w.length_bytes
  have low : bytesOfNat 20 (natOfBytes w.bytes) = w.bytes.drop (w.bytes.length - 20) :=
    bytesOfNat_natOfBytes_of_le (by omega)
  rw [width] at low
  exact low

theorem lowest_byte (w : Word) : [UInt8.ofNat w.toNat] = w.bytes.drop 31 := by
  have width : w.bytes.length = 32 := w.length_bytes
  have low : bytesOfNat 1 (natOfBytes w.bytes) = w.bytes.drop (w.bytes.length - 1) :=
    bytesOfNat_natOfBytes_of_le (by omega)
  rw [width] at low
  exact low

/-! ## Kinds -/

namespace StatusKind

def code : StatusKind → UInt8
  | unregistered => 0
  | registered => 1
  | active => 2
  | exitPending => 3
  | exited => 4
  | kicked => 5
  | other code => code

theorem code_ofCode (c : UInt8) : (ofCode c).code = c := by
  unfold ofCode
  split
  all_goals first
    | rfl
    | (rename_i known
       exact UInt8.toNat_inj.1 known.symm)

theorem ofCode_inj {c c' : UInt8} : ofCode c = ofCode c' ↔ c = c' := by
  constructor
  · intro same
    rw [← code_ofCode c, same, code_ofCode]
  · rintro rfl
    rfl

theorem ofLedger_of_isZero {representative : Address} (h : representative.isZero = true)
    (c : UInt8) : ofLedger representative c = unregistered :=
  if_pos h

/-- Apart from the zero code, which counts as the first, a delegation that is there has the kind of
its code. -/
theorem ofLedger_of_not_isZero {representative : Address} (h : representative.isZero = false)
    (c : UInt8) : ofLedger representative c = ofCode (if c = 0 then 1 else c) := by
  rw [ofLedger, h, if_neg Bool.false_ne_true]
  by_cases zero : c = 0
  · subst zero
    rfl
  · rw [if_neg zero]
    cases kind : ofCode c with
    | unregistered => exact absurd (ofCode_inj.1 (kind : ofCode c = ofCode 0)) zero
    | _ => rfl

theorem ofLedger_eq_unregistered_iff {representative : Address} {c : UInt8} :
    ofLedger representative c = unregistered ↔ representative.isZero = true := by
  cases zero : representative.isZero with
  | true => simp [ofLedger_of_isZero zero]
  | false =>
    have there := isUnregistered_ofLedger zero c
    constructor
    · intro same
      rw [same] at there
      cases there
    · rintro ⟨⟩

end StatusKind

theorem FixedBytes.isZero_iff {n : Nat} (x : FixedBytes n) : x.isZero = true ↔ x = zero := by
  rw [eq_iff]
  unfold isZero zero replicate
  rw [List.eq_replicate_iff]
  simp [x.length_bytes]

/-- Two kinds at the ledger are the same if there is no representative, or if the codes are the same
once zero counts as one. -/
theorem StatusKind.ofLedger_inj {representative : Address} {c c' : UInt8} :
    ofLedger representative c = ofLedger representative c' ↔
      representative = .zero ∨ (if c = 0 then 1 else c) = if c' = 0 then 1 else c' := by
  rw [← FixedBytes.isZero_iff]
  cases zero : representative.isZero with
  | true => simp [ofLedger_of_isZero zero]
  | false => simp [ofLedger_of_not_isZero zero, ofCode_inj]

/-! ## What the data say -/

/-- The indices of the words in which the parts of a status stand. -/
structure WordOrder where
  status : Nat
  representative : Nat
  payoutRecipient : Nat

namespace Authority

/-- The ledger puts the status last. -/
def wordOrder : Authority → WordOrder
  | registry => ⟨0, 1, 2⟩
  | delegationLedger => ⟨2, 0, 1⟩

/-- The kind that a code stands for; the ledger looks at the representative first. -/
def kindOf : Authority → Address → UInt8 → StatusKind
  | registry, _, code => .ofCode code
  | delegationLedger, representative, code => .ofLedger representative code

/-- The three parts of the data are those of the status. -/
structure Says (a : Authority) (data : Bytes) (s : AuthorityStatus) : Prop where
  representative : s.representative.bytes = wordTail a.wordOrder.representative 20 data
  payoutRecipient : s.payoutRecipient.bytes = wordTail a.wordOrder.payoutRecipient 20 data
  kind : ∃ code, wordTail a.wordOrder.status 1 data = [code] ∧
    s.kind = a.kindOf s.representative code

theorem Says.unique {a : Authority} {data data' : Bytes} {s s' : AuthorityStatus}
    (h : a.Says data s) (h' : a.Says data' s')
    (status : wordTail a.wordOrder.status 1 data = wordTail a.wordOrder.status 1 data')
    (representative : wordTail a.wordOrder.representative 20 data =
      wordTail a.wordOrder.representative 20 data')
    (payout : wordTail a.wordOrder.payoutRecipient 20 data =
      wordTail a.wordOrder.payoutRecipient 20 data') : s = s' := by
  obtain ⟨code, hc, kind⟩ := h.kind
  obtain ⟨code', hc', kind'⟩ := h'.kind
  have sameRepresentative : s.representative = s'.representative := by
    rw [FixedBytes.eq_iff, h.representative, h'.representative, representative]
  have samePayout : s.payoutRecipient = s'.payoutRecipient := by
    rw [FixedBytes.eq_iff, h.payoutRecipient, h'.payoutRecipient, payout]
  have sameCode : code = code' := List.singleton_inj.1 (hc.symm.trans (status.trans hc'))
  have sameKind : s.kind = s'.kind := by rw [kind, kind', sameRepresentative, sameCode]
  cases s
  cases s'
  simp_all

/-- The registry looks at the code, the ledger at the representative. -/
theorem Says.isUnregistered_iff {a : Authority} {data : Bytes} {s : AuthorityStatus} :
    a.Says data s →
      (s.isUnregistered = true ↔
        match a with
        | registry => wordTail 0 1 data = [0]
        | delegationLedger => s.representative = .zero) := by
  rintro ⟨-, -, code, status, kind⟩
  have unregistered : s.isUnregistered = true ↔ s.kind = .unregistered := by
    simp [AuthorityStatus.isUnregistered, StatusKind.isUnregistered]
  rw [unregistered, kind]
  cases a with
  | registry =>
    change StatusKind.ofCode code = StatusKind.ofCode 0 ↔ wordTail 0 1 data = [0]
    rw [StatusKind.ofCode_inj, show wordTail 0 1 data = [code] from status, List.singleton_inj]
  | delegationLedger =>
    exact StatusKind.ofLedger_eq_unregistered_iff.trans (FixedBytes.isZero_iff _)

end Authority

/-! ## Reading statuses -/

section

variable {a : Authority} {data : Bytes}

theorem decodeAll_words {ws : List Word} (three : ws.length = 3) (rest : Bytes) :
    decodeAll [.word, .word, .word] (ws.flatMap (·.bytes) ++ rest) = some (ws.map .word) := by
  have read := readAll_words ws (ws.flatMap (·.bytes) ++ rest) rest
  rw [three] at read
  unfold decodeAll Cursor.start
  rw [show [Kind.word, .word, .word] = List.replicate 3 .word from rfl, read]
  rfl

theorem decodeStatus_short (short : data.length < 96) :
    ∃ operation details, decodeStatus a data = .error (.abi operation details) := by
  have read : decodeAll [.word, .word, .word] data = none := by
    unfold decodeAll Cursor.start
    rw [show [Kind.word, .word, .word] = List.replicate 3 .word from rfl, readAll_short short]
    rfl
  cases a with
  | registry =>
    rw [decodeStatus, Registry.ProposerInfo.decode?, read]
    exact ⟨_, _, rfl⟩
  | delegationLedger =>
    rw [decodeStatus, Ledger.DelegationInfo.decode?, read]
    exact ⟨_, _, rfl⟩

/-- The status that three words make. -/
def Authority.ofWords (a : Authority) (w₀ w₁ w₂ : Word) : AuthorityStatus :=
  match a with
  | .registry => ⟨.ofCode (.ofNat w₀.toNat), .ofNat w₁.toNat, .ofNat w₂.toNat⟩
  | .delegationLedger =>
    ⟨.ofLedger (.ofNat w₀.toNat) (.ofNat w₂.toNat), .ofNat w₀.toNat, .ofNat w₁.toNat⟩

theorem decodeStatus_words (a : Authority) (w₀ w₁ w₂ : Word) (rest : Bytes) :
    decodeStatus a ([w₀, w₁, w₂].flatMap (·.bytes) ++ rest) = .ok (a.ofWords w₀ w₁ w₂) := by
  have three : [w₀, w₁, w₂].length = 3 := rfl
  have read := decodeAll_words three rest
  cases a with
  | registry =>
    rw [decodeStatus, Registry.ProposerInfo.decode?, read]
    rfl
  | delegationLedger =>
    rw [decodeStatus, Ledger.DelegationInfo.decode?, read]
    rfl

theorem Authority.says_words (a : Authority) (w₀ w₁ w₂ : Word) (rest : Bytes) :
    a.Says ([w₀, w₁, w₂].flatMap (·.bytes) ++ rest) (a.ofWords w₀ w₁ w₂) := by
  have address {i : Nat} {w : Word} (h : [w₀, w₁, w₂][i]? = some w) :
      (FixedBytes.ofNat w.toNat : Address).bytes =
        wordTail i 20 ([w₀, w₁, w₂].flatMap (·.bytes) ++ rest) := by
    rw [wordTail_words h (by decide), bytes_toAddress]
  have status {i : Nat} {w : Word} (h : [w₀, w₁, w₂][i]? = some w) :
      wordTail i 1 ([w₀, w₁, w₂].flatMap (·.bytes) ++ rest) = [UInt8.ofNat w.toNat] := by
    rw [wordTail_words h (by decide), lowest_byte]
  cases a with
  | registry =>
    refine ⟨address rfl, address rfl, UInt8.ofNat w₀.toNat, status rfl, ?_⟩
    simp only [ofWords, kindOf]
  | delegationLedger =>
    refine ⟨address rfl, address rfl, UInt8.ofNat w₂.toNat, status rfl, ?_⟩
    simp only [ofWords, kindOf]

theorem decodeStatus_long (long : 96 ≤ data.length) :
    ∃ s, decodeStatus a data = .ok s ∧ a.Says data s := by
  obtain ⟨ws, rest, three, rfl⟩ := exists_words (n := 3) long
  obtain ⟨w₀, w₁, w₂, rfl⟩ := List.length_eq_three.1 three
  exact ⟨_, decodeStatus_words a w₀ w₁ w₂ rest, a.says_words w₀ w₁ w₂ rest⟩

theorem decodeStatus_eq_ok_iff {s : AuthorityStatus} :
    decodeStatus a data = .ok s ↔ 96 ≤ data.length ∧ a.Says data s := by
  by_cases long : 96 ≤ data.length
  · obtain ⟨s', read, told'⟩ := decodeStatus_long (a := a) long
    rw [read]
    constructor
    · intro same
      cases same
      exact ⟨long, told'⟩
    · rintro ⟨-, told⟩
      rw [told'.unique told rfl rfl rfl]
  · obtain ⟨operation, details, failed⟩ := decodeStatus_short (a := a) (Nat.lt_of_not_le long)
    rw [failed]
    constructor
    · rintro ⟨⟩
    · rintro ⟨enough, -⟩
      exact absurd enough long

/-- What stands behind the third word is not looked at. -/
theorem decodeStatus_append (long : 96 ≤ data.length) (rest : Bytes) :
    decodeStatus a (data ++ rest) = decodeStatus a data := by
  obtain ⟨ws, behind, three, rfl⟩ := exists_words (n := 3) long
  obtain ⟨w₀, w₁, w₂, rfl⟩ := List.length_eq_three.1 three
  rw [List.append_assoc, decodeStatus_words, decodeStatus_words]

theorem decodeStatus_proposer (i : Registry.ProposerInfo) :
    decodeStatus .registry i.encode =
      .ok ⟨.ofCode i.status, i.representative, i.payoutRecipient⟩ := by
  rw [decodeStatus, i.decode?_encode]

theorem decodeStatus_delegation (i : Ledger.DelegationInfo) :
    decodeStatus .delegationLedger i.encode =
      .ok ⟨.ofLedger i.representative i.status, i.representative, i.payoutRecipient⟩ := by
  rw [decodeStatus, i.decode?_encode]

theorem decodeStatus_proposer_inj {i j : Registry.ProposerInfo} :
    decodeStatus .registry i.encode = decodeStatus .registry j.encode ↔ i = j := by
  rw [decodeStatus_proposer, decodeStatus_proposer]
  cases i
  cases j
  simp [StatusKind.ofCode_inj]

/-- The ledger forgets the code of a delegation without representative, and does not tell
zero from one in any other. -/
theorem decodeStatus_delegation_inj {i j : Ledger.DelegationInfo} :
    decodeStatus .delegationLedger i.encode = decodeStatus .delegationLedger j.encode ↔
      i.representative = j.representative ∧ i.payoutRecipient = j.payoutRecipient ∧
        (i.representative = .zero ∨
          (if i.status = 0 then 1 else i.status) = if j.status = 0 then 1 else j.status) := by
  rw [decodeStatus_delegation, decodeStatus_delegation, Except.ok.injEq,
    AuthorityStatus.mk.injEq]
  constructor
  · rintro ⟨kind, representative, payout⟩
    rw [← representative] at kind
    exact ⟨representative, payout, StatusKind.ofLedger_inj.1 kind⟩
  · rintro ⟨representative, payout, same⟩
    rw [← representative]
    exact ⟨StatusKind.ofLedger_inj.2 same, rfl, payout⟩

end

/-- Data of any length are a status exactly if they hold three words. The status is then the one that
the lowest bytes of the words say, whatever else the data hold: status, representative and payout
recipient at the registry, representative, payout recipient and status at the ledger. At the registry
it is unregistered exactly if its code is zero, at the ledger exactly if its representative is. The
encoded record of a proposer is recovered, and the encoded record of a delegation up to the kind of
one without representative and the zero code of one with it. -/
theorem decodeStatus_exact (a : Authority) (data : Bytes) :
    ((∃ s, decodeStatus a data = .ok s) ↔ 96 ≤ data.length) ∧
    (∀ s, decodeStatus a data = .ok s ↔ 96 ≤ data.length ∧ a.Says data s) ∧
    (∀ data', 96 ≤ data.length → 96 ≤ data'.length →
      wordTail a.wordOrder.status 1 data = wordTail a.wordOrder.status 1 data' →
      wordTail a.wordOrder.representative 20 data =
        wordTail a.wordOrder.representative 20 data' →
      wordTail a.wordOrder.payoutRecipient 20 data =
        wordTail a.wordOrder.payoutRecipient 20 data' →
      decodeStatus a data = decodeStatus a data') ∧
    (∀ s, decodeStatus a data = .ok s →
      (s.isUnregistered = true ↔
        match a with
        | .registry => wordTail 0 1 data = [0]
        | .delegationLedger => s.representative = .zero)) ∧
    (∀ (i : Registry.ProposerInfo) rest, decodeStatus .registry (i.encode ++ rest) =
      .ok ⟨.ofCode i.status, i.representative, i.payoutRecipient⟩) ∧
    (∀ i j : Registry.ProposerInfo,
      decodeStatus .registry i.encode = decodeStatus .registry j.encode ↔ i = j) ∧
    (∀ (i : Ledger.DelegationInfo) rest, decodeStatus .delegationLedger (i.encode ++ rest) =
      .ok ⟨.ofLedger i.representative i.status, i.representative, i.payoutRecipient⟩) ∧
    ∀ i j : Ledger.DelegationInfo,
      decodeStatus .delegationLedger i.encode = decodeStatus .delegationLedger j.encode ↔
        i.representative = j.representative ∧ i.payoutRecipient = j.payoutRecipient ∧
          (i.representative = .zero ∨
            (if i.status = 0 then 1 else i.status) = if j.status = 0 then 1 else j.status) := by
  refine ⟨?complete, fun s => decodeStatus_eq_ok_iff, ?alike, ?registered, ?proposer,
    fun i j => decodeStatus_proposer_inj, ?delegation, fun i j => decodeStatus_delegation_inj⟩
  case complete =>
    constructor
    · rintro ⟨s, read⟩
      exact (decodeStatus_eq_ok_iff.1 read).1
    · intro long
      obtain ⟨s, read, -⟩ := decodeStatus_long (a := a) long
      exact ⟨s, read⟩
  case alike =>
    intro data' long long' status representative payout
    obtain ⟨s, read, told⟩ := decodeStatus_long (a := a) long
    obtain ⟨s', read', told'⟩ := decodeStatus_long (a := a) long'
    rw [read, read', told.unique told' status representative payout]
  case registered =>
    intro s read
    exact Authority.Says.isUnregistered_iff (decodeStatus_eq_ok_iff.1 read).2
  case proposer =>
    intro i rest
    rw [decodeStatus_append (Nat.le_of_eq i.length_encode.symm), decodeStatus_proposer]
  case delegation =>
    intro i rest
    rw [decodeStatus_append (Nat.le_of_eq i.length_encode.symm), decodeStatus_delegation]

/-- Words with all their high bytes set, and one byte more. -/
example :
    decodeStatus .delegationLedger
        (List.replicate 32 0xff ++ List.replicate 32 0xee ++ List.replicate 33 0x03) =
      .ok ⟨.exitPending, .replicate 20 0xff, .replicate 20 0xee⟩ := by
  decide +kernel

end Registrar
