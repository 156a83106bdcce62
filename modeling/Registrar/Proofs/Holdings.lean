import Registrar.Proofs.Abi
import Registrar.Proofs.Call
import Registrar.Proofs.Consistency
import Registrar.Proofs.Reading
import Registrar.Proofs.Rlp
import Mathlib.Logic.Function.Basic

/-! What the authorities hold of each identity: what a look-up shows of it, and what a transaction
of the engine does to it. -/
namespace Registrar
set_option autoImplicit false

open Program Contract

/-! ## Records and look-ups -/

/-- Whatever its code, a delegation with a representative is there. -/
theorem StatusKind.isUnregistered_ofLedger {representative : Address}
    (h : representative.isZero = false) (code : UInt8) :
    (ofLedger representative code).isUnregistered = false := by
  rw [ofLedger, h, if_neg Bool.false_ne_true]
  cases ofCode code <;> rfl

/-- The record of each identity at both authorities. -/
structure Holdings where
  registry : PublicKey → Registry.ProposerInfo
  ledger : PublicKey → Ledger.DelegationInfo

namespace Holdings

def status (c : Holdings) : Authority → PublicKey → AuthorityStatus
  | .registry, k => ⟨.ofCode (c.registry k).status, (c.registry k).representative,
      (c.registry k).payoutRecipient⟩
  | .delegationLedger, k => ⟨.ofLedger (c.ledger k).representative (c.ledger k).status,
      (c.ledger k).representative, (c.ledger k).payoutRecipient⟩

/-- The answer to a look-up succeeds and holds the record of the identity. -/
def Shows (c : Holdings) : Authority → PublicKey → Multicall.Answer → Prop
  | .registry, k, answer =>
    answer.success = true ∧ Registry.ProposerInfo.decode? answer.data = some (c.registry k)
  | .delegationLedger, k, answer =>
    answer.success = true ∧ Ledger.DelegationInfo.decode? answer.data = some (c.ledger k)

theorem Shows.statusOfAnswer_eq {c : Holdings} {a : Authority} {k : PublicKey}
    {answer : Multicall.Answer} (h : c.Shows a k answer) :
    statusOfAnswer a answer = c.status a k := by
  cases a with
  | registry =>
    obtain ⟨success, decoded⟩ := h
    rw [statusOfAnswer, if_pos success, decodeStatus, decoded]
    rfl
  | delegationLedger =>
    obtain ⟨success, decoded⟩ := h
    rw [statusOfAnswer, if_pos success, decodeStatus, decoded]
    rfl

end Holdings

/-! ## Rows of a transaction -/

theorem Rlp.length_le_encodeItems {i : Rlp.Item} {items : List Rlp.Item} (h : i ∈ items) :
    i.encode.length ≤ (Rlp.encodeItems items).length := by
  induction items with
  | nil => cases h
  | cons first rest ih =>
    rw [encodeItems, List.length_append]
    obtain rfl | h := List.mem_cons.1 h
    · exact Nat.le_add_right ..
    · exact Nat.le_trans (ih h) (Nat.le_add_left ..)

theorem Transaction.length_input_le {t : Transaction} {key : Crypto.Secp256k1.PrivateKey}
    {raw : Bytes} (signed : t.sign? key = some raw) : t.input.length ≤ raw.length := by
  obtain ⟨s, -, rfl⟩ := Option.map_eq_some_iff.1 signed
  have item : Rlp.Item.string t.input ∈
      t.items ++ [.ofNat (if s.yOdd then 1 else 0), .ofNat s.r, .ofNat s.s] := by
    simp [items]
  have inside := Rlp.length_le_encodeItems item
  have string := Rlp.length_le_encodeString t.input
  rw [Rlp.Item.encode] at inside
  rw [rawWith, Rlp.Item.encode, List.length_cons, List.length_append]
  omega

namespace Engine

variable {e : Engine}

/-- The rows that a raw transaction brings to the registry. -/
def registryRows (e : Engine) (raw : Bytes) : List Registry.Entry :=
  match Transaction.ofRaw? raw with
  | none => []
  | some t =>
    if t.target = e.settings.registry then (Registry.decodeBatch? t.input).getD [] else []

/-- The rows that a raw transaction brings to the ledger. -/
def ledgerRows (e : Engine) (raw : Bytes) : List Ledger.Entry :=
  match Transaction.ofRaw? raw with
  | none => []
  | some t =>
    if some t.target = e.settings.delegation then (Ledger.decodeBatch? t.input).getD [] else []

/-- The identities in the rows that a raw transaction brings to an authority. -/
def rowKeys (e : Engine) (raw : Bytes) : Authority → List PublicKey
  | .registry => (e.registryRows raw).map (·.pubkey)
  | .delegationLedger => (e.ledgerRows raw).map (·.pubkey)

theorem selector_ne : Registry.batch.selector ≠ Ledger.batch.selector := by
  decide +kernel

section

variable {a : Authority} {target : Address} {plan : Plan} {raw : Bytes}

theorem read_of_carries {data : Bytes} (carries : e.gateway.Carries target data raw)
    (short : raw.length < 2 ^ 64) :
    data.length < 2 ^ 256 ∧
      ∃ t, Transaction.ofRaw? raw = some t ∧ t.target = target ∧ t.input = data := by
  obtain ⟨t, rfl, rfl, signed⟩ := carries
  have inside := Transaction.length_input_le signed
  exact ⟨by omega, t, Transaction.ofRaw?_of_sign signed short, rfl, rfl⟩

/-- A transaction that carries a batch brings its rows to the authority, and none to the other. -/
theorem registryRows_of_carries (ht : e.dispatcher.target? a = some target)
    (carries : e.gateway.Carries target (plan.callData a) raw) (short : raw.length < 2 ^ 64) :
    e.registryRows raw = if a = .registry then plan.registryBatch else [] := by
  obtain ⟨size, t, read, same, input⟩ := read_of_carries carries short
  rw [registryRows, read]
  dsimp only
  rw [same, input]
  cases a with
  | registry =>
    have registry : target = e.settings.registry := (Option.some.inj ht).symm
    rw [if_pos registry, if_pos rfl, Plan.callData,
      Registry.decodeBatch?_encodeBatch size, Option.getD_some]
  | delegationLedger =>
    have other : Registry.decodeBatch? (plan.callData .delegationLedger) = none := by
      rw [Registry.decodeBatch?, Plan.callData, Ledger.encodeBatch,
        Abi.Function.arguments?_call_of_ne selector_ne.symm]
    rw [other]
    split <;> rfl

theorem ledgerRows_of_carries (ht : e.dispatcher.target? a = some target)
    (carries : e.gateway.Carries target (plan.callData a) raw) (short : raw.length < 2 ^ 64) :
    e.ledgerRows raw = if a = .delegationLedger then plan.delegationBatch else [] := by
  obtain ⟨size, t, read, same, input⟩ := read_of_carries carries short
  rw [ledgerRows, read]
  dsimp only
  rw [same, input]
  cases a with
  | registry =>
    have other : Ledger.decodeBatch? (plan.callData .registry) = none := by
      rw [Ledger.decodeBatch?, Plan.callData, Registry.encodeBatch,
        Abi.Function.arguments?_call_of_ne selector_ne]
    rw [other]
    split <;> rfl
  | delegationLedger =>
    have ledger : some target = e.settings.delegation := ht.symm
    rw [if_pos ledger, if_pos rfl, Plan.callData, Ledger.decodeBatch?_encodeBatch size,
      Option.getD_some]

theorem rowKeys_of_carries (ht : e.dispatcher.target? a = some target)
    (carries : e.gateway.Carries target (plan.callData a) raw) (short : raw.length < 2 ^ 64) :
    e.rowKeys raw a = plan.keys a := by
  cases a with
  | registry => rw [rowKeys, registryRows_of_carries ht carries short, if_pos rfl, Plan.keys]
  | delegationLedger => rw [rowKeys, ledgerRows_of_carries ht carries short, if_pos rfl, Plan.keys]

end

/-! ## Taking effect -/

/-- What the authorities hold once the rows of a raw transaction are entered: each identity as
registered, or as delegated, under the engine's account with the recipient of its row. -/
def settle (e : Engine) (c : Holdings) (raw : Bytes) : Holdings where
  registry := (e.registryRows raw).foldl
    (fun held row => Function.update held row.pubkey ⟨1, e.signer, row.payoutRecipient⟩) c.registry
  ledger := (e.ledgerRows raw).foldl
    (fun held row => Function.update held row.pubkey ⟨e.signer, row.payoutRecipient, 1⟩) c.ledger

end Engine

/-! ## Receipts -/

/-- The exchange brings a receipt of success for the raw transaction. -/
def Exchange.Confirms (x : Exchange) (raw : Bytes) : Prop :=
  ∃ receipt : Receipt, receipt.success = true ∧
    x = ⟨.node (.receipt (Transaction.hashRaw raw)), .ok (some receipt)⟩

/-- The raw transaction was broadcast, and then a receipt of success came for it. -/
def Settled (t : List Exchange) (raw : Bytes) : Prop :=
  ∃ u x v, t = u ++ x :: v ∧ raw ∈ broadcasts u ∧ x.Confirms raw

theorem Settled.mono {t t' : List Exchange} {raw : Bytes} (h : Settled t raw) (ht : t <:+: t') :
    Settled t' raw := by
  obtain ⟨u, x, v, rfl, sent, confirms⟩ := h
  obtain ⟨before, behind, rfl⟩ := ht
  refine ⟨before ++ u, x, v ++ behind, by simp, ?_, confirms⟩
  rw [broadcasts_append]
  exact List.mem_append_right _ sent

/-! ## What a reading tells -/

/-- In the exchanges, one of the reader's aggregates tells this status of the identity. -/
def StatusReader.Told (reader : StatusReader) (a : Authority) (t : List Exchange) (k : PublicKey)
    (status : AuthorityStatus) : Prop :=
  ∃ (target : Address) (u : List Exchange) (read : AggregateRead) (v : List Exchange),
    reader.target a = .ok target ∧
      t = u ++ read.exchange reader.gateway.settings.multicall target a :: v ∧
      read.Tells a k status

/-- Every aggregate that the node answers shows what the authorities hold at that moment. -/
def StatusReader.Mirrors (reader : StatusReader) (content : List Exchange → Holdings)
    (t : List Exchange) : Prop :=
  ∀ (a : Authority) (target : Address) (u : List Exchange) (read : AggregateRead)
    (v : List Exchange) (answers : List Multicall.Answer),
    reader.target a = .ok target →
    t = u ++ read.exchange reader.gateway.settings.multicall target a :: v →
    read.outcome = .ok answers → List.Forall₂ ((content u).Shows a) read.keys answers

namespace StatusReader

variable {reader : StatusReader} {content : List Exchange → Holdings} {a : Authority}
  {k : PublicKey} {status : AuthorityStatus} {t : List Exchange}

theorem Told.mono {t' : List Exchange} (h : reader.Told a t k status) (ht : t <:+: t') :
    reader.Told a t' k status := by
  obtain ⟨target, u, read, v, htarget, rfl, tells⟩ := h
  obtain ⟨before, behind, rfl⟩ := ht
  exact ⟨target, before ++ u, read, v ++ behind, htarget, by simp, tells⟩

/-- What is told of an identity in a part of the exchanges is what was held at some moment of it. -/
theorem Mirrors.status_eq {before behind : List Exchange}
    (mirrors : reader.Mirrors content (before ++ t ++ behind)) (told : reader.Told a t k status) :
    ∃ u, u <+: t ∧ status = (content (before ++ u)).status a k := by
  obtain ⟨target, u, read, v, htarget, rfl, answers, answer, outcome, hk, rfl⟩ := told
  have shown := mirrors a target (before ++ u) read (v ++ behind) answers htarget (by simp) outcome
  exact ⟨u, List.prefix_append .., ((List.forall₂_zip shown hk).statusOfAnswer_eq)⟩

theorem batchStatus_told {keys : List PublicKey} {m : StatusMap}
    (h : (reader.batchStatus keys a).Yields t (.ok m)) (hk : k ∈ keys) :
    reader.Told a t k (m.status k) := by
  cases ht : reader.target a with
  | error err =>
    unfold batchStatus at h
    rw [if_neg (by simpa using List.ne_nil_of_mem hk), ht] at h
    cases h.2
  | ok target =>
    obtain ⟨reads, rfl, serving⟩ := batchStatus_yields ht h
    obtain ⟨absent, -⟩ | ⟨-, read, hread, status, now, tells⟩ := serving.get?_of_whole k
    · exact absurd hk absent
    · obtain ⟨u, v, rfl⟩ := List.append_of_mem hread
      rw [StatusMap.status, now, Option.getD_some]
      exact ⟨target, _, read, _, ht, by rw [List.map_append, List.map_cons], tells⟩

end StatusReader

/-- The engine learns what the authorities hold through this reader, which knows the contracts that
the engine sends to. -/
structure Engine.ReadsThrough (e : Engine) (reader : StatusReader) : Prop where
  source : e.statuses = reader.source
  registry : reader.registry = e.settings.registry
  delegation : reader.delegation = e.settings.delegation

theorem Engine.ReadsThrough.read_eq {e : Engine} {reader : StatusReader}
    (through : e.ReadsThrough reader) (keys : List PublicKey) (a : Authority) :
    e.statuses.read keys a = reader.batchStatus keys a := by
  rw [through.source]
  rfl

/-- A reading of both authorities tells of each identity what its look-ups tell. -/
theorem Engine.readStatuses_told {e : Engine} {reader : StatusReader} (through : e.ReadsThrough reader)
    {keys : List PublicKey} {t : List Exchange} {statuses : StatusSnapshot}
    (h : (e.readStatuses keys).Yields t (.ok statuses)) {k : PublicKey} (hk : k ∈ keys) :
    reader.Told .registry t k (statuses.registry.status k) ∧
      ∀ ledger, statuses.delegation = some ledger →
        reader.Told .delegationLedger t k (ledger.status k) := by
  unfold readStatuses at h
  rw [yields_monad_bind] at h
  obtain ⟨t, t', registry, rfl, hr, h⟩ := h
  cases registry with
  | error err =>
    obtain ⟨-, h⟩ := h
    cases h
  | ok registry =>
  rw [through.read_eq] at hr
  have told := StatusReader.batchStatus_told hr hk
  dsimp only at h
  split at h
  · obtain ⟨rfl, h⟩ := h
    cases h
    exact ⟨told.mono (List.prefix_append ..).isInfix, nofun⟩
  rw [yields_monad_bind] at h
  obtain ⟨t', t'', delegation, rfl, hd, h⟩ := h
  cases delegation with
  | error err =>
    obtain ⟨-, h⟩ := h
    cases h
  | ok delegation =>
    obtain ⟨rfl, h⟩ := h
    cases h
    refine ⟨told.mono (List.prefix_append ..).isInfix, fun ledger same => ?_⟩
    cases same
    rw [through.read_eq] at hd
    rw [List.append_nil]
    exact (StatusReader.batchStatus_told hd hk).mono (List.suffix_append ..).isInfix

end Registrar
