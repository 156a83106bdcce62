import Registrar.Proofs.Pool
import Registrar.Proofs.Rlp

/-! Fees and gas. Within the ceiling the bounds of the machine words never show: what is signed is
computed as if all numbers were unbounded, and the raw form carries just these numbers. -/
namespace Registrar
set_option autoImplicit false

open Program

/-! ## Fees -/

namespace Fees

variable {ceiling : Nat}

/-- The ceiling is a number of wei itself, so that it takes over before the sum could saturate. -/
theorem maxFee_ofSuggested (room : ceiling ≤ maxWei) (gasPrice suggestedTip : Nat) :
    (ofSuggested ceiling gasPrice suggestedTip).maxFee =
      min (gasPrice + min suggestedTip gasPrice) ceiling := by
  have saturating : (ofSuggested ceiling gasPrice suggestedTip).maxFee =
      min (min (gasPrice + min suggestedTip gasPrice) maxWei) ceiling := rfl
  omega

theorem tip_ofSuggested (ceiling gasPrice suggestedTip : Nat) :
    (ofSuggested ceiling gasPrice suggestedTip).tip =
      min (min suggestedTip gasPrice) (ofSuggested ceiling gasPrice suggestedTip).maxFee := rfl

end Fees

/-! ## Gas -/

theorem toNat_gasLimitOf (e : UInt64) :
    (gasLimitOf e).toNat =
      min (e.toNat + min (e.toNat * 20) (2 ^ 64 - 1) / 100) (2 ^ 64 - 1) := by
  have fits : min (e.toNat + min (e.toNat * 20) (2 ^ 64 - 1) / 100) (2 ^ 64 - 1) < 2 ^ 64 := by
    omega
  exact UInt64.toNat_ofNat_of_lt fits

theorem le_gasLimitOf (e : UInt64) : e ≤ gasLimitOf e := by
  have word : e.toNat < 2 ^ 64 := e.toNat_lt
  have limit := toNat_gasLimitOf e
  rw [UInt64.le_iff_toNat_le]
  omega

theorem gasLimitOf_mono {e e' : UInt64} (h : e ≤ e') : gasLimitOf e ≤ gasLimitOf e' := by
  rw [UInt64.le_iff_toNat_le] at h ⊢
  have limit := toNat_gasLimitOf e
  have limit' := toNat_gasLimitOf e'
  have headroom : min (e.toNat * 20) (2 ^ 64 - 1) / 100 ≤ min (e'.toNat * 20) (2 ^ 64 - 1) / 100 := by
    apply Nat.div_le_div_right
    omega
  omega

/-- As long as the headroom is computed without saturation, it is a fifth of the estimate. -/
theorem toNat_gasLimitOf_of_le {e : UInt64} (h : e.toNat ≤ (2 ^ 64 - 1) / 20) :
    (gasLimitOf e).toNat = 6 * e.toNat / 5 := by
  have limit := toNat_gasLimitOf e
  have exact : min (e.toNat * 20) (2 ^ 64 - 1) = e.toNat * 20 := by omega
  rw [exact] at limit
  omega

/-! ## The signed form -/

namespace Transaction

/-- The raw form of a call without value: nine fields in their order, and the signature of the key
over the same nine. -/
def SignedForm (t : Transaction) (key : Crypto.Secp256k1.PrivateKey) (raw : Bytes) : Prop :=
  ∃ fields s,
    fields = [.ofNat t.chainId.toNat, .ofNat t.nonce.toNat, .ofNat t.maxPriorityFeePerGas,
      .ofNat t.maxFeePerGas, .ofNat t.gasLimit.toNat, .string t.target.bytes, .ofNat 0,
      .string t.input, .list []] ∧
    Crypto.Secp256k1.sign? key
      (Crypto.keccak256 (typeByte :: (Rlp.Item.list fields).encode)) = some s ∧
    raw = typeByte :: (Rlp.Item.list
      (fields ++ [.ofNat (if s.yOdd then 1 else 0), .ofNat s.r, .ofNat s.s])).encode

theorem signedForm_of_sign {t : Transaction} {key : Crypto.Secp256k1.PrivateKey} {raw : Bytes}
    (signed : t.sign? key = some raw) : t.SignedForm key raw := by
  obtain ⟨s, hs, rfl⟩ := Option.map_eq_some_iff.1 signed
  exact ⟨t.items, s, rfl, hs, rfl⟩

end Transaction

namespace Gateway

variable {g : Gateway} {target : Address} {data : Bytes} {life : Lifecycle}

/-! ## What a quote comes to -/

/-- The terms of a call that is made at these answers. -/
structure Quote.Terms (q : Quote) (g : Gateway) (target : Address) (data : Bytes)
    (t : Transaction) : Prop where
  chainId : t.chainId = g.settings.chainId
  nonce : t.nonce = q.nonce
  target : t.target = target
  input : t.input = data
  gasLimit : t.gasLimit = gasLimitOf q.estimate
  maxFee : t.maxFeePerGas = min (q.gasPrice + min q.tip q.gasPrice) g.settings.maxGasPrice
  tip : t.maxPriorityFeePerGas = min (min q.tip q.gasPrice) t.maxFeePerGas
  price_le : q.gasPrice ≤ t.maxFeePerGas
  maxFee_le : t.maxFeePerGas ≤ g.settings.maxGasPrice
  tip_le : t.maxPriorityFeePerGas ≤ t.maxFeePerGas

theorem Quote.terms {q : Quote} (room : g.settings.maxGasPrice ≤ maxWei)
    (within : q.gasPrice ≤ g.settings.maxGasPrice) :
    q.Terms g target data (q.transaction g target data) := by
  have maxFee : (q.transaction g target data).maxFeePerGas =
      min (q.gasPrice + min q.tip q.gasPrice) g.settings.maxGasPrice :=
    Fees.maxFee_ofSuggested room q.gasPrice q.tip
  have tip : (q.transaction g target data).maxPriorityFeePerGas =
      min (min q.tip q.gasPrice) (q.transaction g target data).maxFeePerGas :=
    Fees.tip_ofSuggested g.settings.maxGasPrice q.gasPrice q.tip
  exact
    { chainId := rfl
      nonce := rfl
      target := rfl
      input := rfl
      gasLimit := rfl
      maxFee
      tip
      price_le := by omega
      maxFee_le := by omega
      tip_le := by omega }

/-! ## Building -/

/-- A gas price above the ceiling is the last thing that is asked. -/
theorem build_yields_of_dear {price : Nat} (above : g.settings.maxGasPrice < price)
    {rest : List Exchange} {result : Stepped SignedTx} :
    (g.build target data life).Yields (⟨.node .gasPrice, .ok price⟩ :: rest) result ↔
      rest = [] ∧ result = (.error (.gasPriceTooHigh price g.settings.maxGasPrice), life.fail) := by
  unfold build
  constructor
  · rintro ⟨answer, t, same, h⟩
    obtain ⟨first, rfl⟩ := List.cons.inj same
    cases first
    simp only [Program.bind, if_pos above] at h
    exact h
  · rintro ⟨rfl, rfl⟩
    refine ⟨.ok price, [], rfl, ?_⟩
    simp only [Program.bind, if_pos above]
    exact ⟨rfl, rfl⟩

/-- A gas price above the ceiling ends the attempt with nothing else asked. At every other quote the
call is signed on terms that are computed without bounds, and whatever comes to be signed is a call
on these terms, without value. The gas limit never falls below the estimate, never wraps, grows with
the estimate, and adds a fifth to it as far as the headroom does not saturate. -/
theorem build_priced (room : g.settings.maxGasPrice ≤ maxWei) (target : Address) (data : Bytes)
    (life : Lifecycle) :
    (∀ price, g.settings.maxGasPrice < price → ∀ rest result,
      (g.build target data life).Yields (⟨.node .gasPrice, .ok price⟩ :: rest) result ↔
        rest = [] ∧
          result = (.error (.gasPriceTooHigh price g.settings.maxGasPrice), life.fail)) ∧
    (∀ q : Quote, q.gasPrice ≤ g.settings.maxGasPrice →
      ∃ t, q.Terms g target data t ∧ ∀ result,
        (g.build target data life).Yields (q.exchanges g target data) result ↔
          result = g.signTransaction t life) ∧
    (∀ asked tx life', (g.build target data life).Yields asked (.ok tx, life') →
      ∃ (q : Quote) (t : Transaction), asked = q.exchanges g target data ∧ q.gasPrice ≤ g.settings.maxGasPrice ∧
        q.Terms g target data t ∧ tx.nonce = t.nonce ∧ tx.gasLimit = t.gasLimit ∧
        t.SignedForm g.signer.key tx.raw ∧
        (tx.raw.length < 2 ^ 64 → Transaction.ofRaw? tx.raw = some t)) ∧
    ∀ e, e ≤ gasLimitOf e ∧ (∀ e', e ≤ e' → gasLimitOf e ≤ gasLimitOf e') ∧
      (gasLimitOf e).toNat =
        min (e.toNat + min (e.toNat * 20) (2 ^ 64 - 1) / 100) (2 ^ 64 - 1) ∧
      (e.toNat ≤ (2 ^ 64 - 1) / 20 → (gasLimitOf e).toNat = 6 * e.toNat / 5) := by
  refine ⟨?dear, ?quoted, ?signed, ?gas⟩
  case dear =>
    intro price above rest result
    exact build_yields_of_dear above
  case quoted =>
    intro q within
    exact ⟨_, Quote.terms room within, fun result => build_yields_of_quoted within⟩
  case signed =>
    intro asked tx life' h
    generalize stepped : ((.ok tx, life') : Stepped SignedTx) = built at h
    cases build_run h with
    | lost => cases stepped
    | dear => cases stepped
    | quoted q within =>
      obtain ⟨signed, nonce, gasLimit⟩ := signed_of_signTransaction stepped.symm
      exact ⟨q, _, rfl, within, Quote.terms room within, nonce, gasLimit,
        Transaction.signedForm_of_sign signed, Transaction.ofRaw?_of_sign signed⟩
  case gas =>
    intro e
    exact ⟨le_gasLimitOf e, fun e' => gasLimitOf_mono, toNat_gasLimitOf e, toNat_gasLimitOf_of_le⟩

/-- Under a ceiling of ten: a price of eleven, a price whose doubled fee the ceiling cuts, and a call
that is signed. -/
theorem build_priced_under_ten :
    let g := hastyGateway sampleKey
    (g.build .zero [] (.start "registry")).Yields [⟨.node .gasPrice, .ok 11⟩]
      (.error (.gasPriceTooHigh 11 10), ⟨"registry", .failed, none⟩) ∧
    (∃ t : Transaction, t.maxFeePerGas = 10 ∧ t.maxPriorityFeePerGas = 5 ∧ t.nonce = 7 ∧
      t.gasLimit = 36000 ∧ ∀ result,
        (g.build .zero [] (.start "registry")).Yields
            ((⟨8, 5, 30000, 7⟩ : Quote).exchanges g .zero []) result ↔
          result = g.signTransaction t (.start "registry")) ∧
    ∃ (tx : SignedTx) (life : Lifecycle) (t : Transaction), (g.build .zero [] (.start "registry")).Yields
        ((⟨1, 1, 21000, 0⟩ : Quote).exchanges g .zero []) (.ok tx, life) ∧
      t.SignedForm g.signer.key tx.raw ∧ t.maxFeePerGas = 2 := by
  obtain ⟨dear, quoted, signed, -⟩ := build_priced (g := hastyGateway sampleKey) (by decide) .zero []
    (.start "registry")
  refine ⟨(dear 11 (by decide) [] _).2 ⟨rfl, rfl⟩, ?capped, ?signs⟩
  case capped =>
    obtain ⟨t, terms, yields⟩ := quoted ⟨8, 5, 30000, 7⟩ (by decide)
    have maxFee : t.maxFeePerGas = 10 := terms.maxFee
    refine ⟨t, maxFee, ?_, terms.nonce, ?_, yields⟩
    · rw [terms.tip, maxFee]
      rfl
    · rw [terms.gasLimit]
      decide
  case signs =>
    obtain ⟨raw, sign⟩ := emptyCall_signed
    have yields : ((hastyGateway sampleKey).build .zero [] (.start "registry")).Yields
        ((⟨1, 1, 21000, 0⟩ : Quote).exchanges (hastyGateway sampleKey) .zero [])
        (takeSigned (hastyCall .zero []) (.start "registry")
          ((hastyCall .zero []).sign? sampleKey)) := (build_yields_of_quoted (by decide)).2 rfl
    rw [sign, takeSigned, markSigned_start] at yields
    obtain ⟨q, t, same, -, terms, -, -, form, -⟩ := signed _ _ _ yields
    obtain rfl : ⟨1, 1, 21000, 0⟩ = q := by simpa [Quote.exchanges, Quote.ext_iff] using same
    exact ⟨_, _, t, yields, form, terms.maxFee⟩

end Gateway

end Registrar
