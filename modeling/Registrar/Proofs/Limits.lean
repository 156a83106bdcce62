import Registrar.Proofs.Consistency
import Registrar.Proofs.Pricing
import Registrar.Proofs.Starting

/-! What an accepted configuration leaves to the machine words: prices, gas and the instants of polls
have room, and the deadline of a wait has it only under a timeout that the validation does not
demand. -/
namespace Registrar
set_option autoImplicit false

open Program

namespace Config

variable {c : Config} {g : Gateway}

/-! ## The configured numbers -/

theorem settings_of_gateway (h : c.gateway = .ok g) :
    c.signer? = some g.signer ∧ c.gatewaySettings = .ok g.settings := by
  unfold Config.gateway at h
  cases hu : nodeUrl c.chain.rpcUrl with
  | error e =>
    rw [hu] at h
    cases h
  | ok url =>
  rw [hu] at h
  cases hs : c.signer? with
  | none =>
    rw [hs] at h
    cases h
  | some signer =>
  cases hg : c.gatewaySettings with
  | error e =>
    rw [hs, hg] at h
    cases h
  | ok settings =>
    rw [hs, hg] at h
    cases h
    exact ⟨rfl, rfl⟩

/-- The numbers that the gateway works with are those of the configuration. -/
structure Governs (c : Config) (settings : GatewaySettings) : Prop where
  chainId : settings.chainId = c.chain.chainId
  ceiling : settings.maxGasPrice = c.chain.maxGasPriceGwei.toNat * 1000000000
  pollInterval : settings.pollInterval = c.chain.receiptPollMillis.toNat
  timeout : settings.confirmationTimeout = c.chain.confirmationTimeoutSecs.toNat * 1000
  horizon : settings.horizon = some lastInstant

theorem governs_of_gateway (h : c.gateway = .ok g) : c.Governs g.settings := by
  have built := (settings_of_gateway h).2
  unfold gatewaySettings at built
  cases hm : c.multicall with
  | error e =>
    rw [hm] at built
    cases built
  | ok multicall =>
    rw [hm] at built
    obtain same := Except.ok.inj built
    rw [← same]
    exact ⟨rfl, rfl, rfl, rfl, rfl⟩

namespace Governs

variable {settings : GatewaySettings}

/-- The ceiling in wei stays far below the highest amount of wei. -/
theorem ceiling_lt (h : c.Governs settings) : settings.maxGasPrice < 2 ^ 94 := by
  have word : c.chain.maxGasPriceGwei.toNat < 2 ^ 64 := c.chain.maxGasPriceGwei.toNat_lt
  have ceiling := h.ceiling
  omega

theorem ceiling_le (h : c.Governs settings) : settings.maxGasPrice ≤ maxWei := by
  have small := h.ceiling_lt
  have most : maxWei = 2 ^ 128 - 1 := rfl
  omega

/-- No sum of a price within the ceiling and its tip saturates. -/
theorem fee_le (h : c.Governs settings) {gasPrice tip : Nat}
    (within : gasPrice ≤ settings.maxGasPrice) : gasPrice + min tip gasPrice ≤ maxWei := by
  have small := h.ceiling_lt
  have most : maxWei = 2 ^ 128 - 1 := rfl
  omega

/-- From a reading below 2^40 seconds, the next poll is within the clock. -/
theorem wake_le (h : c.Governs settings) {now : Nat} (early : now < 2 ^ 40 * 1000) :
    now + max settings.pollInterval 1 ≤ lastInstant := by
  have word : c.chain.receiptPollMillis.toNat < 2 ^ 64 := c.chain.receiptPollMillis.toNat_lt
  have interval := h.pollInterval
  have last : lastInstant = 2 ^ 63 * 1000 - 1 := rfl
  omega

/-- The seconds of the reading and of the timeout must add up to less than 2^63. -/
theorem deadline?_eq (h : c.Governs settings) (now : Nat) :
    Gateway.deadline? settings now =
      if now / 1000 + c.chain.confirmationTimeoutSecs.toNat < 2 ^ 63 then
        some (now + c.chain.confirmationTimeoutSecs.toNat * 1000)
      else none := by
  have last : lastInstant = 2 ^ 63 * 1000 - 1 := rfl
  unfold Gateway.deadline?
  rw [h.horizon, h.timeout]
  dsimp only
  by_cases room : now / 1000 + c.chain.confirmationTimeoutSecs.toNat < 2 ^ 63
  · rw [if_pos room, if_pos (by omega)]
  · rw [if_neg room, if_neg (by omega)]

theorem deadline?_eq_none_iff (h : c.Governs settings) {now : Nat} :
    Gateway.deadline? settings now = none ↔
      2 ^ 63 ≤ now / 1000 + c.chain.confirmationTimeoutSecs.toNat := by
  rw [h.deadline?_eq]
  by_cases room : now / 1000 + c.chain.confirmationTimeoutSecs.toNat < 2 ^ 63
  · rw [if_pos room]
    simpa using room
  · rw [if_neg room]
    simpa using room

/-- Under a timeout that leaves room for every reading, an attempt comes to a result. -/
theorem exists_run {σ : Type} {world : Surroundings σ} (h : c.Governs g.settings)
    (short : c.chain.confirmationTimeoutSecs.toNat ≤ 2 ^ 63 - 2 ^ 40)
    (early : ∀ s, ((world .clock s).1 : Nat) < 2 ^ 40 * 1000) (label : String) (target : Address)
    (data : Bytes) (s : σ) : ∃ a s', (g.sendAndConfirm label target data).run world s = (some a, s') := by
  cases run : ((g.sendAndConfirm label target data).run world s).1 with
  | some a => exact ⟨a, _, Prod.ext run rfl⟩
  | none =>
    exfalso
    obtain ⟨now, told, beyond⟩ := Gateway.sendAndConfirm_stalls (stalls_transcript world _ s run)
    obtain ⟨u, v, ht⟩ := List.append_of_mem told
    have answer : now = (world .clock (after world u s)).1 := transcript_answer world _ s ht
    have reading : now < 2 ^ 40 * 1000 := answer ▸ early (after world u s)
    have sum := h.deadline?_eq_none_iff.1 beyond
    omega

end Governs

/-! ## The validation -/

theorem validate_of_loadValid {file : Option String} {env : Environment}
    (accepted : loadValid file env = .ok c) : c.validate = .ok c := by
  unfold loadValid at accepted
  cases read : load file env with
  | error e =>
    rw [read] at accepted
    cases accepted
  | ok loaded =>
    rw [read] at accepted
    have faultless : loaded.faults = [] := faults_of_validate accepted
    have same : loaded.validate = .ok loaded := by rw [validate, faultless]
    obtain rfl : loaded = c := Except.ok.inj (same.symm.trans accepted)
    exact accepted

/-- Of the timeout the validation demands nothing but that it is not zero. -/
theorem validate_timeout {secs : UInt64} (valid : c.validate = .ok c) (set : secs ≠ 0) :
    { c with chain.confirmationTimeoutSecs := secs }.validate =
      .ok { c with chain.confirmationTimeoutSecs := secs } := by
  have faultless : { c with chain.confirmationTimeoutSecs := secs }.faults = [] := by
    have faults := faults_of_validate valid
    unfold Config.faults at faults ⊢
    simp only [List.append_eq_nil_iff] at faults ⊢
    obtain ⟨⟨⟨⟨⟨⟨⟨chain, registry⟩, delegation⟩, signing⟩, remote⟩, secondary⟩, http⟩, runtime⟩ :=
      faults
    refine ⟨⟨⟨⟨⟨⟨⟨?_, registry⟩, delegation⟩, signing⟩, remote⟩, secondary⟩, http⟩, runtime⟩
    unfold chainFaults at chain ⊢
    simp only [List.append_eq_nil_iff, demand_eq_nil, decide_eq_true_eq] at chain ⊢
    obtain ⟨⟨⟨⟨⟨url, chainId⟩, price⟩, poll⟩, -⟩, multicall⟩ := chain
    exact ⟨⟨⟨⟨⟨url, chainId⟩, price⟩, poll⟩, set⟩, multicall⟩
  rw [validate, faultless]

/-! ## Attempts under an accepted configuration -/

/-- An accepted configuration makes a gateway. Its ceiling is a number of wei, no sum of a price
within it and a tip saturates, no gas limit falls short of its estimate, and from readings below
2^40 seconds every next poll lies within the clock. The deadline does if the seconds of the reading
and of the timeout add up to less than 2^63; otherwise, and only then, an attempt breaks off, with
its transaction broadcast. Within 2^63 - 2^40 seconds of timeout every attempt comes to a result, but
any timeout that is not zero is accepted. -/
theorem accepted_limits {file : Option String} {env : Environment}
    (accepted : loadValid file env = .ok c) :
    ∃ g, c.gateway = .ok g ∧
      g.settings.maxGasPrice = c.chain.maxGasPriceGwei.toNat * 1000000000 ∧
      g.settings.maxGasPrice ≤ maxWei ∧
      (∀ gasPrice tip, gasPrice ≤ g.settings.maxGasPrice →
        gasPrice + min tip gasPrice ≤ maxWei) ∧
      (∀ e, e ≤ gasLimitOf e) ∧
      (∀ now, now < 2 ^ 40 * 1000 → now + max g.settings.pollInterval 1 ≤ lastInstant) ∧
      (∀ now, Gateway.deadline? g.settings now =
        if now / 1000 + c.chain.confirmationTimeoutSecs.toNat < 2 ^ 63 then
          some (now + c.chain.confirmationTimeoutSecs.toNat * 1000)
        else none) ∧
      (∀ label target data t, (g.sendAndConfirm label target data).Stalls t ↔
        ∃ sent hash life now,
          (g.broadcast target data (.start label)).Yields sent (.ok hash, life) ∧
            t = sent ++ [⟨.clock, now⟩] ∧
            2 ^ 63 ≤ now / 1000 + c.chain.confirmationTimeoutSecs.toNat) ∧
      (c.chain.confirmationTimeoutSecs.toNat ≤ 2 ^ 63 - 2 ^ 40 →
        ∀ label target data (σ : Type) (world : Surroundings σ),
          (∀ s, ((world .clock s).1 : Nat) < 2 ^ 40 * 1000) →
            ∀ s, ∃ a s', (g.sendAndConfirm label target data).run world s = (some a, s')) ∧
      ∀ secs, secs ≠ 0 →
        { c with chain.confirmationTimeoutSecs := secs }.validate =
          .ok { c with chain.confirmationTimeoutSecs := secs } := by
  have valid := validate_of_loadValid accepted
  obtain ⟨g, ready, -⟩ := (sound_of_faults (faults_of_validate valid)).gateway
  have governs := governs_of_gateway ready
  refine ⟨g, ready, governs.ceiling, governs.ceiling_le, fun _ _ => governs.fee_le, le_gasLimitOf,
    fun _ => governs.wake_le, governs.deadline?_eq, ?stalls, ?ends,
    fun _ => validate_timeout valid⟩
  case stalls =>
    intro label target data t
    simp only [Gateway.sendAndConfirm_stalls_iff, governs.deadline?_eq_none_iff]
  case ends =>
    intro short label target data σ world early s
    exact governs.exists_run short early label target data s

/-! ## Two timeouts -/

/-- A file that leaves all but the node, its chain, the registry, the key and the timeout as usual. -/
def patientFile (timeout : String) : String :=
  "[chain]\nrpc_url = \"http://[::1]:8545\"\nchain_id = 1\nconfirmation_timeout_secs = " ++ timeout ++
    "\n\n[registry]\naddress = \"0x1111111111111111111111111111111111111111\"\n\n" ++
    "[signing]\nprivate_key = \"0x0000000000000000000000000000000000000000000000000000000000000001\"\n"

def patient (secs : UInt64) : Config :=
  { usual with
    chain := { usual.chain with
      rpcUrl := "http://[::1]:8545", chainId := 1, confirmationTimeoutSecs := secs }
    registry := ⟨"0x1111111111111111111111111111111111111111", 1, none⟩
    delegation := ⟨false, "", 1⟩
    signing := ⟨"0x0000000000000000000000000000000000000000000000000000000000000001"⟩ }

theorem loadValid_of_load {file : Option String} {env : Environment}
    (read : (load file env).toOption = some c) (valid : c.validate = .ok c) :
    loadValid file env = .ok c := by
  unfold loadValid
  cases loaded : load file env with
  | error e =>
    rw [loaded] at read
    cases read
  | ok c' =>
    rw [loaded] at read
    cases read
    exact valid

theorem validate_patient {secs : UInt64} (set : secs ≠ 0) :
    (patient secs).validate = .ok (patient secs) := by
  have faultless : (patient 120).faults = [] := by decide +kernel
  have valid : (patient 120).validate = .ok (patient 120) := by rw [validate, faultless]
  have renewed : { patient 120 with chain.confirmationTimeoutSecs := secs } = patient secs := rfl
  rw [← renewed]
  exact validate_timeout valid set

set_option maxRecDepth 100000 in
theorem load_usual_timeout : (load (some (patientFile "120")) []).toOption = some (patient 120) := by
  decide +kernel

set_option maxRecDepth 100000 in
theorem load_longest_timeout :
    (load (some (patientFile "9223372036854775807")) []).toOption =
      some (patient 9223372036854775807) := by
  decide +kernel

theorem signer_patient (secs : UInt64) :
    (patient secs).signer? = some (.ofKey Gateway.sampleKey) := by
  have digits : Text.Hex.decodeDigits (Text.utf8 (Address.dropMark (Text.trim
      "0x0000000000000000000000000000000000000000000000000000000000000001".toList))) =
      .ok (bytesOfNat 32 1) := by decide +kernel
  have width : (bytesOfNat 32 1).length = 32 := by decide
  have number : natOfBytes (bytesOfNat 32 1) = 1 := by decide
  have known : Crypto.Secp256k1.PrivateKey.ofNat? 1 = some Gateway.sampleKey :=
    dif_pos ⟨Gateway.sampleKey.pos, Gateway.sampleKey.lt_order⟩
  unfold signer? patient Signer.ofText?
  dsimp only
  rw [digits]
  dsimp only
  rw [if_pos width, number, known]
  rfl

/-- Under the usual timeout an attempt at a clock that stands at zero comes to a result. -/
theorem accepted_limits_usual :
    loadValid (some (patientFile "120")) [] = .ok (patient 120) ∧
    ∃ g, (patient 120).gateway = .ok g ∧ g.settings.maxGasPrice = 200000000000 ∧
      Gateway.deadline? g.settings 5000 = some 125000 ∧
      ∃ a s', (g.sendAndConfirm "registry" .zero []).run (Gateway.takingNode false) [] =
        (some a, s') := by
  have accepted := loadValid_of_load load_usual_timeout (validate_patient (by decide))
  obtain ⟨g, ready, ceiling, -, -, -, -, deadline, -, ends, -⟩ := accepted_limits accepted
  refine ⟨accepted, g, ready, ceiling, ?_, ?_⟩
  · rw [deadline]
    rfl
  · exact ends (by decide) "registry" .zero [] _ (Gateway.takingNode false)
      (fun _ => show (0 : Nat) < 2 ^ 40 * 1000 by omega) []

/-- Whatever the timeout, the node can let it broadcast a call. -/
theorem exists_sent_patient {secs : UInt64} (ready : (patient secs).gateway = .ok g) :
    ∃ raw hash life t, (g.broadcast .zero [] (.start "registry")).Yields t (.ok hash, life) ∧
      broadcasts t = [raw] ∧ ∀ x ∈ t, x.question ≠ .clock := by
  have governs := governs_of_gateway ready
  have key : g.signer = .ofKey Gateway.sampleKey :=
    Option.some.inj ((settings_of_gateway ready).1.symm.trans (signer_patient secs))
  have gwei : (patient secs).chain.maxGasPriceGwei = 200 := rfl
  have ceiling : g.settings.maxGasPrice = 200000000000 := by
    rw [governs.ceiling, gwei]
    rfl
  have call : (⟨1, 1, 21000, 0⟩ : Gateway.Quote).transaction g .zero [] =
      Gateway.hastyCall .zero [] := by
    unfold Gateway.Quote.transaction Gateway.hastyCall
    rw [governs.chainId, ceiling]
    rfl
  obtain ⟨raw, signed⟩ := Gateway.emptyCall_signed
  have signs : ((⟨1, 1, 21000, 0⟩ : Gateway.Quote).transaction g .zero []).sign? g.signer.key =
      some raw := by
    rw [call, key]
    exact signed
  refine ⟨raw, _, _, _, Gateway.broadcast_yields_of_quoted "registry"
    (show 1 ≤ g.settings.maxGasPrice by omega) signs (.taken (Transaction.hashRaw raw)), rfl, ?_⟩
  simp [Gateway.Quote.exchanges]

/-- A timeout of 2^63 - 1 seconds is accepted; at a reading of one second, the attempt broadcasts its
transaction and breaks off. -/
theorem accepted_timeout_stalls :
    ∃ c g raw t, loadValid (some (patientFile "9223372036854775807")) [] = .ok c ∧
      c.gateway = .ok g ∧ (g.sendAndConfirm "registry" .zero []).Stalls t ∧
      broadcasts t = [raw] ∧ ∀ now, ⟨.clock, now⟩ ∈ t → now = 1000 := by
  have valid : (patient 9223372036854775807).validate = .ok (patient 9223372036854775807) :=
    validate_patient (by decide)
  obtain ⟨g, ready, -⟩ := (sound_of_faults (faults_of_validate valid)).gateway
  obtain ⟨raw, hash, life, sent, yields, once, timeless⟩ := exists_sent_patient ready
  have beyond : Gateway.deadline? g.settings 1000 = none :=
    (governs_of_gateway ready).deadline?_eq_none_iff.2 (by decide)
  refine ⟨_, g, raw, sent ++ [⟨.clock, 1000⟩], loadValid_of_load load_longest_timeout valid, ready,
    Gateway.sendAndConfirm_stalls_iff.2 ⟨sent, hash, life, 1000, yields, rfl, beyond⟩, ?_, ?_⟩
  · rw [broadcasts_append, once]
    rfl
  · intro now told
    obtain told | last := List.mem_append.1 told
    · exact absurd rfl (timeless _ told)
    · cases List.mem_singleton.1 last
      rfl

end Config

end Registrar
