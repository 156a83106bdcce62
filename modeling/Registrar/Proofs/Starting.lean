import Registrar.Config.Validation
import Registrar.Proofs.Rlp
import Registrar.Proofs.Sequence
import Registrar.Startup

/-! A configuration without faults starts. The validation and the start read the same fields each on
its own; whatever passes the one is enough for the other, and only the node can still refuse. -/
namespace Registrar
set_option autoImplicit false

open Program

/-! ## What a validation says -/

namespace Config

theorem demand_eq_nil {holds : Bool} {fault : String} : demand holds fault = [] ↔ holds = true := by
  cases holds <;> simp [demand]

theorem faultOf_eq_nil {α : Type} {read : Except Error α} : faultOf read = [] ↔ ∃ a, read = .ok a := by
  cases read <;> simp [faultOf]

/-- A configuration with which everything can start. -/
structure Sound (c : Config) : Prop where
  nodeUrl : Net.Url.isAbsolute (Text.trimmed c.chain.rpcUrl) = true
  multicall : ∃ a, c.multicall = .ok a
  registry : ∃ a, c.registryAddress = .ok a
  registryChain : c.registry.chainId = c.chain.chainId
  payout : ∃ payout, c.payoutOverride = .ok payout
  ledger : c.delegation.enabled = true → ∃ a, c.delegationAddress = .ok a
  ledgerChain : c.delegation.enabled = true → c.delegation.chainId = c.chain.chainId
  secondary : c.delegation.enabled = true → c.secondarySignerUrl.isSome = true
  signer : ∃ s, c.signer? = some s
  listening : c.http.enabled = true → Net.isSocketAddress c.http.listenAddress = true
  batch_pos : 0 < c.runtime.maxBatchSize.toNat
  batch_le : c.runtime.maxBatchSize.toNat ≤ maxIdentities

theorem faults_of_validate {c c' : Config} (h : c.validate = .ok c') : c.faults = [] := by
  unfold validate at h
  cases found : c.faults with
  | nil => rfl
  | cons fault others =>
    rw [found] at h
    exact absurd h nofun

theorem sound_of_faults {c : Config} (h : c.faults = []) : c.Sound := by
  simp only [faults, List.append_eq_nil_iff] at h
  obtain ⟨⟨⟨⟨⟨⟨⟨chain, registry⟩, delegation⟩, signing⟩, -⟩, -⟩, http⟩, runtime⟩ := h
  simp only [chainFaults, List.append_eq_nil_iff, demand_eq_nil, faultOf_eq_nil] at chain
  simp only [registryFaults, chainMismatch, List.append_eq_nil_iff, demand_eq_nil, faultOf_eq_nil,
    decide_eq_true_eq] at registry
  simp only [runtimeFaults, List.append_eq_nil_iff, demand_eq_nil, Bool.and_eq_true,
    decide_eq_true_eq] at runtime
  simp only [httpFaults, demand_eq_nil, Bool.or_eq_true, Bool.not_eq_true'] at http
  have ledger (enabled : c.delegation.enabled = true) :
      ((∃ a, c.delegationAddress = .ok a) ∧ c.delegation.chainId = c.chain.chainId) ∧
        c.secondarySignerUrl.isSome = true := by
    simpa only [delegationFaults, enabled, if_true, chainMismatch, List.append_eq_nil_iff,
      demand_eq_nil, faultOf_eq_nil, decide_eq_true_eq] using delegation
  have signer : c.signer?.isSome = true := by
    unfold signingFaults at signing
    split at signing
    · cases signing
    · exact demand_eq_nil.1 signing
  exact
    { nodeUrl := chain.1.1.1.1.1
      multicall := chain.2
      registry := registry.1.1
      registryChain := registry.1.2
      payout := registry.2
      ledger := fun enabled => (ledger enabled).1.1
      ledgerChain := fun enabled => (ledger enabled).1.2
      secondary := fun enabled => (ledger enabled).2
      signer := Option.isSome_iff_exists.1 signer
      listening := fun enabled => http.resolve_left (by simp [enabled])
      batch_pos := Nat.pos_of_ne_zero fun zero => runtime.1.1 (UInt64.toNat_inj.1 zero)
      batch_le := runtime.1.2 }

/-! ## The engine -/

namespace Sound

variable {c : Config}

/-- The ledger's address is there exactly if the ledger is in use. -/
theorem delegationAddress (h : c.Sound) :
    ∃ ledger, c.delegationAddress = .ok ledger ∧ ledger.isSome = c.delegation.enabled := by
  cases enabled : c.delegation.enabled with
  | false => exact ⟨none, by rw [Config.delegationAddress, enabled]; rfl, rfl⟩
  | true =>
    obtain ⟨ledger, read⟩ := h.ledger enabled
    refine ⟨ledger, read, ?_⟩
    unfold Config.delegationAddress at read
    rw [enabled, Bool.not_true, if_neg Bool.false_ne_true] at read
    split at read
    · cases read
    · cases found : readAddress "delegation.address" c.delegation.address with
      | error e =>
        rw [found] at read
        cases read
      | ok a =>
        rw [found] at read
        cases read
        rfl

theorem engineSettings (h : c.Sound) :
    ∃ settings, c.engineSettings = .ok settings ∧
      settings.maxBatchSize = c.runtime.maxBatchSize.toNat ∧
      settings.delegation.isSome = c.delegation.enabled := by
  obtain ⟨registry, hr⟩ := h.registry
  obtain ⟨ledger, hl, used⟩ := h.delegationAddress
  obtain ⟨payout, hp⟩ := h.payout
  refine ⟨⟨_, registry, ledger, payout⟩, ?_, rfl, used⟩
  rw [Config.engineSettings, hr, hl, hp]
  rfl

theorem engine (h : c.Sound) (g : Gateway) :
    ∃ e, c.engine g = .ok e ∧ e.settings.delegation.isSome = c.delegation.enabled ∧
      (c.delegation.enabled = true → e.canAuthorize = true) ∧
      e.chunkSize = c.runtime.maxBatchSize.toNat ∧
      ∀ intents, ∀ chunk ∈ e.chunksOf intents, chunk.length ≤ c.runtime.maxBatchSize.toNat := by
  obtain ⟨settings, read, size, used⟩ := h.engineSettings
  refine ⟨_, congrArg _ read, used, h.secondary, ?_⟩
  -- Within the bounds of the validation nothing is cut off.
  have kept : min (max settings.maxBatchSize 1) 1000 = c.runtime.maxBatchSize.toNat := by
    have bounds : 0 < c.runtime.maxBatchSize.toNat ∧ c.runtime.maxBatchSize.toNat ≤ 1000 :=
      ⟨h.batch_pos, h.batch_le⟩
    omega
  exact ⟨kept, fun intents chunk hchunk => kept ▸ Engine.length_of_mem_chunksOf hchunk⟩

/-! ## The gateway -/

theorem gateway (h : c.Sound) :
    ∃ g, c.gateway = .ok g ∧ g.settings.chainId = c.chain.chainId := by
  obtain ⟨signer, hs⟩ := h.signer
  obtain ⟨settings, hg, chain⟩ :
      ∃ settings, c.gatewaySettings = .ok settings ∧ settings.chainId = c.chain.chainId := by
    obtain ⟨multicall, hm⟩ := h.multicall
    rw [gatewaySettings, hm]
    exact ⟨_, rfl, rfl⟩
  have url : Config.gateway c = .ok ⟨signer, settings⟩ := by
    have absolute : Net.Url.fault? (Text.trimmed c.chain.rpcUrl) = none :=
      Option.isNone_iff_eq_none.1 h.nodeUrl
    unfold Config.gateway
    rw [Registrar.nodeUrl, hs, hg]
    dsimp only
    rw [absolute]
    rfl
  exact ⟨⟨signer, settings⟩, url, chain⟩

end Sound

end Config

namespace Gateway

variable {g : Gateway} {target : Address} {data : Bytes}

/-- The node is asked for its chain and nothing else, and only its own chain satisfies the
gateway. -/
theorem verifyChainId_yields {t : List Exchange} {result : Except Error Unit}
    (h : g.verifyChainId.Yields t result) :
    ∃ answer, t = [⟨.node .chainId, answer⟩] ∧
      (result = .ok () → answer = .ok g.settings.chainId) := by
  obtain ⟨answer, t, rfl, h⟩ := h
  cases answer with
  | error e =>
    obtain ⟨rfl, rfl⟩ := h
    exact ⟨.error e, rfl, by rintro ⟨⟩⟩
  | ok actual =>
    simp only [Program.bind] at h
    split at h
    · rename_i same
      obtain ⟨rfl, rfl⟩ := h
      exact ⟨.ok actual, rfl, fun _ => congrArg _ same⟩
    · obtain ⟨rfl, rfl⟩ := h
      exact ⟨.ok actual, rfl, by rintro ⟨⟩⟩

theorem not_stalls_verifyChainId (g : Gateway) : ∀ t, ¬g.verifyChainId.Stalls t := by
  refine not_stalls_monad_bind (not_stalls_request _) fun answer t => ?_
  cases answer with
  | error e => exact not_stalls_pure
  | ok actual =>
    dsimp only
    split <;> exact not_stalls_pure

/-- The gateway once the node is found to serve its chain. -/
def verified (g : Gateway) : Program (Except Error Gateway) := do
  match ← g.verifyChainId with
  | .error e => return .error e
  | .ok () => return .ok g

theorem verified_yields {t : List Exchange} {result : Except Error Gateway}
    (h : g.verified.Yields t result) :
    (∃ e, g.verifyChainId.Yields t (.error e) ∧ result = .error e) ∨
      g.verifyChainId.Yields t (.ok ()) ∧ result = .ok g := by
  obtain ⟨t, u, checked, rfl, checks, h⟩ := yields_monad_bind.1 h
  cases checked with
  | error e =>
    obtain ⟨rfl, rfl⟩ := h
    rw [List.append_nil]
    exact .inl ⟨e, checks, rfl⟩
  | ok =>
    obtain ⟨rfl, rfl⟩ := h
    rw [List.append_nil]
    exact .inr ⟨checks, rfl⟩

theorem not_stalls_verified (g : Gateway) : ∀ t, ¬g.verified.Stalls t := by
  refine not_stalls_monad_bind g.not_stalls_verifyChainId fun checked => ?_
  cases checked <;> exact fun _ => not_stalls_pure

/-! ## What the gateway signs -/

/-- The raw form of a transaction for the given chain, signed with the gateway's key. -/
def Bears (g : Gateway) (chainId : UInt64) (raw : Bytes) : Prop :=
  ∃ t : Transaction, t.sign? g.signer.key = some raw ∧ t.chainId = chainId

/-- All that is built is for the gateway's chain. -/
theorem build_bears {life life' : Lifecycle} {t : List Exchange} {tx : SignedTx}
    (h : (g.build target data life).Yields t (.ok tx, life')) :
    g.Bears g.settings.chainId tx.raw := by
  generalize stepped : ((.ok tx, life') : Stepped SignedTx) = built at h
  cases build_run h with
  | lost => cases stepped
  | dear => cases stepped
  | quoted q => exact ⟨_, (signed_of_signTransaction stepped.symm).1, rfl⟩

/-- All that the gateway builds, and all that its attempts broadcast, is signed for the chain. -/
structure SignsFor (g : Gateway) (chainId : UInt64) : Prop where
  built : ∀ target data life t tx life',
    (g.build target data life).Yields t (.ok tx, life') → g.Bears chainId tx.raw
  sent : ∀ label target data t raw answer, (g.sendAndConfirm label target data).Begins t →
    ⟨.node (.sendRaw raw), answer⟩ ∈ t → g.Bears chainId raw

theorem signsFor (g : Gateway) : g.SignsFor g.settings.chainId where
  built _ _ _ _ _ _ := build_bears
  sent _ _ _ _ _ _ begun asked :=
    (sendAndConfirm_sends_of fun _ _ _ => build_bears).question_of_begins begun _ asked

end Gateway

namespace Config

variable {c : Config} {g : Gateway}

theorem connect_eq (h : c.gateway = .ok g) : c.connect = g.verified := by
  rw [connect, h]
  rfl

/-- A configuration that passes the validation starts. Over any gateway there is an engine, with the
ledger in use as configured, a secondary signer at hand for it, and chunks as long as configured and
no longer. What is to be listened on is a socket address. The gateway is there before the node is
asked anything; connecting to it ends, and fails only with the check of the node's chain. If it does
not fail, then the node reported the one chain that is configured for the registry and for a ledger
in use, and all that the gateway signs is for that chain. -/
theorem starts_of_validate (c : Config) (valid : c.validate = .ok c) :
    (∀ g, ∃ e, c.engine g = .ok e ∧ e.settings.delegation.isSome = c.delegation.enabled ∧
      (c.delegation.enabled = true → e.canAuthorize = true) ∧
      e.chunkSize = c.runtime.maxBatchSize.toNat ∧
      ∀ intents, ∀ chunk ∈ e.chunksOf intents, chunk.length ≤ c.runtime.maxBatchSize.toNat) ∧
    (c.http.enabled = true → Net.isSocketAddress c.http.listenAddress = true) ∧
    ∃ g, c.gateway = .ok g ∧
      (∀ (σ : Type) (world : Surroundings σ) s, ∃ result s',
        c.connect.run world s = (some result, s')) ∧
      ∀ t result, c.connect.Yields t result →
        (∃ e, g.verifyChainId.Yields t (.error e) ∧ result = .error e) ∨
        (result = .ok g ∧ t = [⟨.node .chainId, .ok c.registry.chainId⟩] ∧
          (c.delegation.enabled = true → c.delegation.chainId = c.registry.chainId) ∧
          g.SignsFor c.registry.chainId) := by
  have sound := sound_of_faults (faults_of_validate valid)
  obtain ⟨g, ready, chain⟩ := sound.gateway
  have same : g.settings.chainId = c.registry.chainId := chain.trans sound.registryChain.symm
  refine ⟨sound.engine, sound.listening, g, ready, ?_⟩
  rw [connect_eq ready]
  refine ⟨fun σ world s => exists_run_of_not_stalls g.not_stalls_verified world s, ?_⟩
  intro t result h
  refine (Gateway.verified_yields h).imp_right ?_
  rintro ⟨checks, rfl⟩
  obtain ⟨answer, rfl, reported⟩ := Gateway.verifyChainId_yields checks
  rw [reported rfl, same]
  refine ⟨rfl, rfl, fun enabled => ?_, same ▸ g.signsFor⟩
  exact (sound.ledgerChain enabled).trans sound.registryChain.symm

/-- A configuration with the ledger in use, on chain 17000 in chunks of fifty. -/
def delegating : Config :=
  { usual with
    chain := { usual.chain with chainId := 17000, rpcUrl := "http://[::1]:8545" }
    registry := ⟨"0x1111111111111111111111111111111111111111", 17000, none⟩
    delegation := ⟨true, "0x2222222222222222222222222222222222222222", 17000⟩
    signing := ⟨"0x4c0883a69102937d6231471b5dbb6204fe5129617082792ae468d01a3f362318"⟩
    secondarySigner := ⟨some " http://[::1]:9100 ", 30⟩
    runtime := ⟨50, 500⟩ }

theorem validate_delegating : delegating.validate = .ok delegating := by
  have faultless : delegating.faults = [] := by decide +kernel
  rw [validate, faultless]

/-- It starts with the secondary signer at hand, and signs for the chain once the node reports
it. -/
theorem starts_of_validate_delegating :
    (∀ g, ∃ e, delegating.engine g = .ok e ∧ e.canAuthorize = true ∧ e.chunkSize = 50) ∧
      ∃ g, delegating.gateway = .ok g ∧
        delegating.connect.Yields [⟨.node .chainId, .ok 17000⟩] (.ok g) ∧ g.SignsFor 17000 := by
  obtain ⟨engines, -, g, ready, -, connects⟩ := starts_of_validate delegating validate_delegating
  constructor
  · intro g
    obtain ⟨e, set, -, authorizes, size, -⟩ := engines g
    exact ⟨e, set, authorizes rfl, size⟩
  · obtain ⟨g', ready', chain⟩ := (sound_of_faults (faults_of_validate validate_delegating)).gateway
    obtain rfl : g = g' := Except.ok.inj (ready.symm.trans ready')
    have connected : delegating.connect.Yields [⟨.node .chainId, .ok 17000⟩] (.ok g) := by
      rw [connect_eq ready]
      refine ⟨.ok 17000, [], rfl, ?_⟩
      simp only [Program.bind, chain]
      exact ⟨rfl, rfl⟩
    refine ⟨g, ready, connected, ?_⟩
    obtain ⟨e, -, failed⟩ | ⟨-, -, -, signs⟩ := connects _ _ connected
    · cases failed
    · exact signs

end Config

end Registrar
