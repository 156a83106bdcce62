import Registrar.Engine.Gateway
import Registrar.Proofs.Transcript

/-! Attempts: every way in which building, broadcasting and following one transaction can end, with
what was asked on the way. -/
namespace Registrar
set_option autoImplicit false

open Program

/-! ## What an exchange tells -/

/-- The question broadcasts nothing. -/
def Ask.Quiet (q : Ask) : Prop :=
  ∀ raw, q ≠ .node (.sendRaw raw)

/-- The question neither broadcasts anything nor reports on a batch. -/
def Ask.Calm (q : Ask) : Prop :=
  q.Quiet ∧ ∀ a n status, q ≠ .observe (.dispatched a n status)

/-- The question looks something up, asks a signer, or tells of one identity. -/
def Ask.preliminary : Ask → Bool
  | listKeys | signRegistration _ | authorize .. => true
  | observe (.classified ..) | observe (.omitted ..) => true
  | q => q.looksUp

/-- Whether the question belongs to a wait for a receipt. -/
def Ask.waits : Ask → Bool
  | node (.receipt _) | clock | pause _ => true
  | _ => false

/-- The identity that a signer is asked for or that the observer is told of. -/
def Ask.subject? : Ask → Option PublicKey
  | signRegistration m => some m.pubkey
  | authorize r _ => some r.pubkey
  | observe (.classified k _) | observe (.omitted k _) => some k
  | _ => none

/-- As `preliminary`, of a question about no other identities than these. -/
def Ask.PreliminaryTo (keys : List PublicKey) (q : Ask) : Prop :=
  q.preliminary = true ∧ ∀ k ∈ q.subject?, k ∈ keys

/-- What an attempt asks that broadcasts nothing but raw forms with the property. -/
def Ask.Sends (P : Bytes → Prop) : Ask → Prop
  | node (.sendRaw raw) => P raw
  | acquire .nonce | release .nonce => True
  | q => q.looksUp = true

theorem Ask.looksUp_of_waits {q : Ask} (h : q.waits = true) : q.looksUp = true := by
  cases q with
  | node c => cases c <;> first | rfl | cases h
  | clock | pause => rfl
  | _ => cases h

theorem Ask.sends_of_looksUp {P : Bytes → Prop} {q : Ask} (h : q.looksUp = true) : q.Sends P := by
  cases q with
  | node c => cases c <;> first | rfl | cases h
  | clock | pause => rfl
  | _ => cases h

theorem Ask.quiet_of_looksUp {q : Ask} (h : q.looksUp = true) : q.Quiet := by
  intro raw hq
  rw [hq] at h
  cases h

theorem Ask.preliminary_of_looksUp {q : Ask} (h : q.looksUp = true) : q.preliminary = true := by
  cases q with
  | node c => exact h
  | clock | pause => rfl
  | _ => cases h

theorem Ask.subject?_of_looksUp {q : Ask} (h : q.looksUp = true) : q.subject? = none := by
  cases q with
  | signRegistration m | authorize r representative => cases h
  | observe e => cases h
  | _ => rfl

theorem Ask.PreliminaryTo.mono {q : Ask} {keys keys' : List PublicKey} (hk : keys ⊆ keys')
    (h : q.PreliminaryTo keys) : q.PreliminaryTo keys' :=
  ⟨h.1, fun k hs => hk (h.2 k hs)⟩

theorem Ask.calm_of_preliminary {q : Ask} (h : q.preliminary = true) : q.Calm := by
  constructor
  · rintro raw rfl
    cases h
  · rintro a n status rfl
    cases h

theorem Ask.Sends.broadcasts {P : Bytes → Prop} {q : Ask} {raw : Bytes} (h : q.Sends P)
    (hq : q = .node (.sendRaw raw)) : P raw := by
  rw [hq] at h
  exact h

theorem Ask.Sends.imp {P Q : Bytes → Prop} {q : Ask} (hPQ : ∀ raw, P raw → Q raw)
    (h : q.Sends P) : q.Sends Q := by
  cases q with
  | node c =>
    cases c with
    | sendRaw raw => exact hPQ raw h
    | _ => exact h
  | acquire l | release l => cases l <;> exact h
  | _ => exact h

def Silent (t : List Exchange) : Prop :=
  ∀ x ∈ t, x.question.Quiet

theorem silent_of_looksUp {t : List Exchange} (looking : ∀ x ∈ t, x.question.looksUp = true) :
    Silent t :=
  fun x hx => Ask.quiet_of_looksUp (looking x hx)

theorem silent_release (lock : Lock) : Silent [⟨.release lock, ()⟩] := by
  intro x hx raw hq
  rw [List.mem_singleton.1 hx] at hq
  cases hq

namespace Exchange

def receipt? : Exchange → Option Receipt
  | ⟨.node (.receipt _), answer⟩ => Gateway.found? answer
  | _ => none

/-- Part of a wait that has brought no receipt: a poll in vain, a look at the clock, or a pause. -/
def IsIdle (hash : Word) (x : Exchange) : Prop :=
  x.receipt? = none ∧
    (x.question = .node (.receipt hash) ∨ x.question = .clock ∨ ∃ wake, x.question = .pause wake)

theorem IsIdle.looksUp {hash : Word} {x : Exchange} (h : x.IsIdle hash) :
    x.question.looksUp = true := by
  obtain ⟨-, hq | hq | ⟨wake, hq⟩⟩ := h <;> rw [hq] <;> rfl

end Exchange

namespace Gateway

variable {g : Gateway} {target : Address} {data : Bytes} {label : String}

/-! ## The signed transaction -/

/-- The raw form of a transaction to `target` with the given call data, signed with the gateway's
key. -/
def Carries (g : Gateway) (target : Address) (data raw : Bytes) : Prop :=
  ∃ t : Transaction, t.target = target ∧ t.input = data ∧ t.sign? g.signer.key = some raw

/-- Why no transaction came to be signed. -/
inductive Unsigned (t : List Exchange) : Error → Prop
  | node (c : NodeCall) (e : Error) (h : ⟨.node c, .error e⟩ ∈ t) : Unsigned t e
  | gasPrice (suggested ceiling : Nat) (h : ceiling < suggested) :
    Unsigned t (.gasPriceTooHigh suggested ceiling)
  | signing (details : String) : Unsigned t (.signingFailed details)

theorem markSigned_start (tx : SignedTx) (label : String) :
    markSigned tx (.start label) = (.ok tx, ⟨label, .signed, some tx.hash⟩) := rfl

theorem signTransaction_cases (g : Gateway) (t : Transaction) (label : String) :
    (∃ details,
      g.signTransaction t (.start label) = (.error (.signingFailed details), .start label)) ∨
    ∃ tx, g.signTransaction t (.start label) = (.ok tx, ⟨label, .signed, some tx.hash⟩) ∧
      t.sign? g.signer.key = some tx.raw := by
  unfold signTransaction
  cases hs : t.sign? g.signer.key with
  | none => exact .inl ⟨_, rfl⟩
  | some raw => exact .inr ⟨⟨raw, t.nonce, t.gasLimit⟩, markSigned_start .., rfl⟩

theorem signed_of_signTransaction {t : Transaction} {life life' : Lifecycle} {tx : SignedTx}
    (h : g.signTransaction t life = (.ok tx, life')) :
    t.sign? g.signer.key = some tx.raw ∧ tx.nonce = t.nonce ∧ tx.gasLimit = t.gasLimit := by
  unfold signTransaction at h
  cases signed : t.sign? g.signer.key with
  | none =>
    rw [signed] at h
    cases h
  | some raw =>
    rw [signed, takeSigned, markSigned] at h
    split at h
    · cases h
    · cases h
      exact ⟨rfl, rfl, rfl⟩

/-- The answers that a transaction is made from. -/
@[ext] structure Quote where
  gasPrice : Nat
  tip : Nat
  estimate : UInt64
  nonce : UInt64

namespace Quote

def exchanges (q : Quote) (g : Gateway) (target : Address) (data : Bytes) : List Exchange :=
  [⟨.node .gasPrice, .ok q.gasPrice⟩, ⟨.node .priorityFee, .ok q.tip⟩,
    ⟨.node (.estimateGas g.signer.address target data), .ok q.estimate⟩,
    ⟨.node (.pendingNonce g.signer.address), .ok q.nonce⟩]

def transaction (q : Quote) (g : Gateway) (target : Address) (data : Bytes) : Transaction :=
  let fees := Fees.ofSuggested g.settings.maxGasPrice q.gasPrice q.tip
  { chainId := g.settings.chainId
    nonce := q.nonce
    gasLimit := gasLimitOf q.estimate
    maxFeePerGas := fees.maxFee
    maxPriorityFeePerGas := fees.tip
    target
    input := data }

theorem error_not_mem (q : Quote) {c : NodeCall} {e : Error} :
    ⟨.node c, .error e⟩ ∉ q.exchanges g target data := by
  intro told
  simp only [exchanges, List.mem_cons, List.not_mem_nil, or_false] at told
  obtain same | same | same | same := told <;> cases same

end Quote

/-- The course of building: it ends at the first question that fails, early on, or at a gas price
above the ceiling, or with the signing of what all was answered for. -/
inductive BuildRun (g : Gateway) (target : Address) (data : Bytes) (life : Lifecycle) :
    List Exchange → Stepped SignedTx → Prop
  | lost (answered : List Exchange) (c : NodeCall) (e : Error) (early : answered.length < 4)
      (within : ∀ price, ⟨.node .gasPrice, .ok price⟩ ∈ answered → price ≤ g.settings.maxGasPrice) :
    BuildRun g target data life (answered ++ [⟨.node c, .error e⟩]) (.error e, life)
  | dear (price : Nat) (above : g.settings.maxGasPrice < price) :
    BuildRun g target data life [⟨.node .gasPrice, .ok price⟩]
      (.error (.gasPriceTooHigh price g.settings.maxGasPrice), life.fail)
  | quoted (q : Quote) (within : q.gasPrice ≤ g.settings.maxGasPrice) :
    BuildRun g target data life (q.exchanges g target data)
      (g.signTransaction (q.transaction g target data) life)

theorem build_run {t : List Exchange} {built : Stepped SignedTx} {life : Lifecycle}
    (h : (g.build target data life).Yields t built) : g.BuildRun target data life t built := by
  unfold build at h
  obtain ⟨gasPrice, t, rfl, h⟩ := h
  cases gasPrice with
  | error e =>
    obtain ⟨rfl, rfl⟩ := h
    exact .lost [] _ e (by simp) (by simp)
  | ok gasPrice =>
  simp only [Program.bind] at h
  by_cases above : g.settings.maxGasPrice < gasPrice
  · rw [if_pos above] at h
    obtain ⟨rfl, rfl⟩ := h
    exact .dear gasPrice above
  rw [if_neg above] at h
  have within := Nat.le_of_not_lt above
  obtain ⟨tip, t, rfl, h⟩ := h
  cases tip with
  | error e =>
    obtain ⟨rfl, rfl⟩ := h
    exact .lost [⟨.node .gasPrice, .ok gasPrice⟩] _ e (by simp) (by simp [within])
  | ok tip =>
  obtain ⟨estimate, t, rfl, h⟩ := h
  cases estimate with
  | error e =>
    obtain ⟨rfl, rfl⟩ := h
    exact .lost [⟨.node .gasPrice, .ok gasPrice⟩, ⟨.node .priorityFee, .ok tip⟩] _ e (by simp)
      (by simp [within])
  | ok estimate =>
  obtain ⟨nonce, t, rfl, h⟩ := h
  cases nonce with
  | error e =>
    obtain ⟨rfl, rfl⟩ := h
    exact .lost [⟨.node .gasPrice, .ok gasPrice⟩, ⟨.node .priorityFee, .ok tip⟩,
      ⟨.node (.estimateGas g.signer.address target data), .ok estimate⟩] _ e (by simp)
      (by simp [within])
  | ok nonce =>
    obtain ⟨rfl, rfl⟩ := h
    exact .quoted ⟨gasPrice, tip, estimate, nonce⟩ within

theorem build_yields_of_quoted {q : Quote} (within : q.gasPrice ≤ g.settings.maxGasPrice)
    {life : Lifecycle} {result : Stepped SignedTx} :
    (g.build target data life).Yields (q.exchanges g target data) result ↔
      result = g.signTransaction (q.transaction g target data) life := by
  constructor
  · intro h
    generalize asked : q.exchanges g target data = t at h
    cases build_run h with
    | lost answered c e early =>
      have told : ⟨.node c, .error e⟩ ∈ q.exchanges g target data := by simp [asked]
      exact absurd told q.error_not_mem
    | dear price above => simp [Quote.exchanges] at asked
    | quoted q' =>
      obtain rfl : q = q' := by simpa [Quote.exchanges, Quote.ext_iff] using asked
      rfl
  · rintro rfl
    have cheap : ¬g.settings.maxGasPrice < q.gasPrice := Nat.not_lt.2 within
    unfold build
    refine ⟨.ok q.gasPrice, _, rfl, ?_⟩
    simp only [Program.bind, if_neg cheap]
    exact ⟨.ok q.tip, _, rfl, .ok q.estimate, _, rfl, .ok q.nonce, _, rfl, rfl, rfl⟩

/-- Building ends before any transaction is signed, or with a signed transaction. -/
theorem build_yields {t : List Exchange} {result : Except Error SignedTx} {life : Lifecycle}
    (h : (g.build target data (.start label)).Yields t (result, life)) :
    (∃ e, result = .error e ∧ life.fail = ⟨label, .failed, none⟩ ∧ Unsigned t e) ∨
      ∃ tx, result = .ok tx ∧ life = ⟨label, .signed, some tx.hash⟩ ∧
        g.Carries target data tx.raw := by
  generalize stepped : (result, life) = built at h
  cases build_run h with
  | lost answered c e =>
    cases stepped
    exact .inl ⟨e, rfl, rfl, .node c e (by simp)⟩
  | dear price above =>
    cases stepped
    exact .inl ⟨_, rfl, rfl, .gasPrice _ _ above⟩
  | quoted q =>
    obtain ⟨details, signed⟩ | ⟨tx, signed, raw⟩ :=
      signTransaction_cases g (q.transaction g target data) label
    · obtain ⟨rfl, rfl⟩ := Prod.mk.inj (stepped.trans signed)
      exact .inl ⟨_, rfl, rfl, .signing details⟩
    · obtain ⟨rfl, rfl⟩ := Prod.mk.inj (stepped.trans signed)
      exact .inr ⟨tx, rfl, rfl, _, rfl, rfl, raw⟩

def Builds (g : Gateway) (target : Address) (data : Bytes) (q : Ask) : Prop :=
  q = .node .gasPrice ∨ q = .node .priorityFee ∨
    q = .node (.estimateGas g.signer.address target data) ∨
    q = .node (.pendingNonce g.signer.address)

theorem build_asks (g : Gateway) (target : Address) (data : Bytes) (life : Lifecycle) :
    (g.build target data life).Asks (g.Builds target data) := by
  have node {α : Type} (c : NodeCall) (hc : g.Builds target data (.node c))
      {next : Except Error c.Reply → Program α}
      (hnext : ∀ answer, (next answer).Asks (g.Builds target data)) :
      (Gateway.node c >>= next).Asks (g.Builds target data) := ⟨hc, hnext⟩
  unfold build
  refine node _ (.inl rfl) fun gasPrice => ?_
  cases gasPrice with
  | error e => trivial
  | ok gasPrice =>
  dsimp only
  split
  · trivial
  refine node _ (.inr (.inl rfl)) fun tip => ?_
  cases tip with
  | error e => trivial
  | ok tip =>
  refine node _ (.inr (.inr (.inl rfl))) fun estimate => ?_
  cases estimate with
  | error e => trivial
  | ok estimate =>
  refine node _ (.inr (.inr (.inr rfl))) fun nonce => ?_
  cases nonce <;> trivial

theorem Builds.looksUp {q : Ask} (h : g.Builds target data q) : q.looksUp = true := by
  obtain rfl | rfl | rfl | rfl := h <;> rfl

theorem build_looksUp (g : Gateway) (target : Address) (data : Bytes) (life : Lifecycle) :
    (g.build target data life).Asks fun q => q.looksUp = true :=
  (build_asks g target data life).imp fun _ h => h.looksUp

/-! ## The broadcast -/

/-- The broadcast was taken, or the node turned out to know the transaction. -/
inductive Submitted (tx : SignedTx) : List Exchange → Prop
  | taken (echoed : Word) : Submitted tx [⟨.node (.sendRaw tx.raw), .ok echoed⟩]
  | known (e : Error) (seen : TxLookup) :
    Submitted tx
      [⟨.node (.sendRaw tx.raw), .error e⟩, ⟨.node (.transactionStatus tx.hash), .ok (some seen)⟩]

/-- The broadcast was answered by an error, and the look-up did not find the transaction. -/
inductive Refused (tx : SignedTx) : List Exchange → Error → Prop
  | intro (e : Error) (answer : Except Error (Option TxLookup))
      (h : ∀ seen, answer ≠ .ok (some seen)) :
    Refused tx
      [⟨.node (.sendRaw tx.raw), .error e⟩, ⟨.node (.transactionStatus tx.hash), answer⟩]
      (.sendFailed tx.hash.toHex e.text)

theorem markSubmitted_signed (hash : Word) (label : String) :
    markSubmitted hash ⟨label, .signed, some hash⟩ =
      (.ok hash, ⟨label, .submitted, some hash⟩) := rfl

theorem submit_yields {tx : SignedTx} {t : List Exchange} {result : Except Error Word}
    {life : Lifecycle} (h : (submit tx ⟨label, .signed, some tx.hash⟩).Yields t (result, life)) :
    (result = .ok tx.hash ∧ life = ⟨label, .submitted, some tx.hash⟩ ∧ Submitted tx t) ∨
      ∃ e, result = .error e ∧ life = ⟨label, .failed, some tx.hash⟩ ∧ Refused tx t e := by
  unfold submit at h
  obtain ⟨sent, t, rfl, h⟩ := h
  cases sent with
  | ok echoed =>
    obtain ⟨rfl, h⟩ := h
    rw [markSubmitted_signed] at h
    cases h
    exact .inl ⟨rfl, rfl, .taken echoed⟩
  | error e =>
  obtain ⟨answer, t, rfl, h⟩ := h
  have refused (hs : ∀ seen, answer ≠ .ok (some seen)) (ht : t = [])
      (hr : (result, life) =
        (.error (.sendFailed tx.hash.toHex e.text),
          Lifecycle.fail ⟨label, .signed, some tx.hash⟩)) :
      ∃ e', result = .error e' ∧ life = ⟨label, .failed, some tx.hash⟩ ∧
        Refused tx (⟨.node (.sendRaw tx.raw), .error e⟩ ::
          ⟨.node (.transactionStatus tx.hash), answer⟩ :: t) e' := by
    subst ht
    cases hr
    exact ⟨_, rfl, rfl, .intro e answer hs⟩
  cases answer with
  | error lookupError =>
    exact .inr (refused (by simp) h.1 h.2)
  | ok seen =>
    cases seen with
    | none => exact .inr (refused (by simp) h.1 h.2)
    | some seen =>
      obtain ⟨rfl, h⟩ := h
      rw [markSubmitted_signed] at h
      cases h
      exact .inl ⟨rfl, rfl, .known e seen⟩

/-- The ways in which a wait can end, with the phase that the lifecycle is left in. -/
inductive Waited (hash : Word) : List Exchange → Except Error Receipt → Phase → Prop
  | confirmed (idle : List Exchange) (receipt : Receipt) (hidle : ∀ x ∈ idle, x.IsIdle hash)
      (hr : receipt.success = true) :
    Waited hash (idle ++ [⟨.node (.receipt hash), .ok (some receipt)⟩]) (.ok receipt) .confirmed
  | reverted (idle : List Exchange) (receipt : Receipt) (hidle : ∀ x ∈ idle, x.IsIdle hash)
      (hr : receipt.success = false) :
    Waited hash (idle ++ [⟨.node (.receipt hash), .ok (some receipt)⟩])
      (.error (.transactionReverted hash.toHex receipt.blockNumber)) .failed
  | cancelled (idle : List Exchange) (reason : String) (hidle : ∀ x ∈ idle, x.IsIdle hash) :
    Waited hash idle (.error (.confirmationCancelled hash.toHex reason)) .pending

theorem Waited.prepend (idle : List Exchange) {hash : Word} {t : List Exchange}
    {result : Except Error Receipt} {phase : Phase} (hidle : ∀ x ∈ idle, x.IsIdle hash)
    (h : Waited hash t result phase) : Waited hash (idle ++ t) result phase := by
  have all {more : List Exchange} (hmore : ∀ x ∈ more, x.IsIdle hash) :
      ∀ x ∈ idle ++ more, x.IsIdle hash :=
    fun x hx => (List.mem_append.1 hx).elim (hidle x) (hmore x)
  cases h with
  | confirmed more receipt hmore hr =>
    rw [← List.append_assoc]
    exact .confirmed _ receipt (all hmore) hr
  | reverted more receipt hmore hr =>
    rw [← List.append_assoc]
    exact .reverted _ receipt (all hmore) hr
  | cancelled more reason hmore => exact .cancelled _ reason (all hmore)

theorem found?_eq_some {answer : Except Error (Option Receipt)} {receipt : Receipt} :
    found? answer = some receipt ↔ answer = .ok (some receipt) := by
  cases answer <;> simp [found?]

theorem conclude_waited {hash : Word} {receipt : Receipt} {result : Except Error Receipt}
    {life : Lifecycle} (h : (result, life) = conclude hash receipt ⟨label, .pending, some hash⟩) :
    ∃ phase, life = ⟨label, phase, some hash⟩ ∧
      Waited hash [⟨.node (.receipt hash), .ok (some receipt)⟩] result phase := by
  unfold conclude at h
  by_cases hr : receipt.success = true
  · rw [if_pos hr] at h
    cases h
    exact ⟨_, rfl, .confirmed [] receipt (by simp) hr⟩
  · rw [if_neg hr] at h
    cases h
    exact ⟨_, rfl, .reverted [] receipt (by simp) (by simpa using hr)⟩

theorem pollFrom_yields {hash : Word} {deadline reached : Nat} {t : List Exchange}
    {result : Except Error Receipt} {life : Lifecycle}
    (h : (g.pollFrom hash deadline ⟨label, .pending, some hash⟩ reached).Yields t (result, life)) :
    ∃ phase, life = ⟨label, phase, some hash⟩ ∧ Waited hash t result phase := by
  -- each turn of the loop is idle, so it only lengthens what the turns after it give
  induction reached using pollFrom.induct g deadline generalizing t with
  | case1 reached ih =>
  rw [pollFrom] at h
  obtain ⟨answer, t, rfl, h⟩ := h
  cases hf : found? answer with
  | some receipt =>
    simp only [hf] at h
    obtain ⟨rfl, h⟩ := h
    obtain rfl := found?_eq_some.1 hf
    exact conclude_waited h
  | none =>
  simp only [hf] at h
  obtain ⟨now, t, rfl, h⟩ := h
  have polled : Exchange.IsIdle hash ⟨.node (.receipt hash), answer⟩ := ⟨hf, .inl rfl⟩
  have looked : Exchange.IsIdle hash ⟨.clock, now⟩ := ⟨rfl, .inr (.inl rfl)⟩
  dsimp only at h
  by_cases hn : Nat.max reached now < deadline
  · rw [dif_pos hn] at h
    obtain ⟨ended, t, rfl, h⟩ := h
    have paused : Exchange.IsIdle hash ⟨.pause _, ended⟩ := ⟨rfl, .inr (.inr ⟨_, rfl⟩)⟩
    cases ended with
    | elapsed =>
      obtain ⟨phase, hl, hw⟩ := ih now hn h
      refine ⟨phase, hl, hw.prepend [_, _, _] ?_⟩
      simp only [List.forall_mem_cons]
      exact ⟨polled, looked, paused, by simp⟩
    | stopped =>
      obtain ⟨rfl, h⟩ := h
      cases h
      refine ⟨_, rfl, .cancelled _ _ ?_⟩
      simp only [List.forall_mem_cons]
      exact ⟨polled, looked, paused, by simp⟩
  · rw [dif_neg hn] at h
    obtain ⟨rfl, h⟩ := h
    cases h
    refine ⟨_, rfl, .cancelled _ _ ?_⟩
    simp only [List.forall_mem_cons]
    exact ⟨polled, looked, by simp⟩

theorem waitForReceipt_yields {hash : Word} {t : List Exchange} {result : Except Error Receipt}
    {life : Lifecycle}
    (h : (g.waitForReceipt hash ⟨label, .submitted, some hash⟩).Yields t (result, life)) :
    ∃ phase, life = ⟨label, phase, some hash⟩ ∧ Waited hash t result phase := by
  unfold waitForReceipt at h
  obtain ⟨now, t, rfl, h⟩ := h
  simp only [Program.bind] at h
  cases hd : deadline? g.settings now with
  | none =>
    rw [hd] at h
    exact h.elim
  | some deadline =>
    rw [hd] at h
    obtain ⟨phase, hl, hw⟩ := pollFrom_yields h
    exact ⟨phase, hl, hw.prepend [_] (by simp [Exchange.IsIdle, Exchange.receipt?])⟩

/-! ## The whole attempt -/

/-- The ways in which an attempt can end. -/
inductive Attempted (g : Gateway) (target : Address) (data : Bytes) :
    List Exchange → TxAttempt → Prop
  | unsent (building : List Exchange) (e : Error)
      (looking : ∀ x ∈ building, x.question.looksUp = true) (h : Unsigned building e) :
    Attempted g target data (⟨.acquire .nonce, ()⟩ :: (building ++ [⟨.release .nonce, ()⟩]))
      ⟨none, .failed, .error e⟩
  | refused (building sending : List Exchange) (tx : SignedTx) (e : Error)
      (looking : ∀ x ∈ building, x.question.looksUp = true) (carries : g.Carries target data tx.raw)
      (h : Refused tx sending e) :
    Attempted g target data
      (⟨.acquire .nonce, ()⟩ :: (building ++ sending ++ [⟨.release .nonce, ()⟩]))
      ⟨some tx.hash, .failed, .error e⟩
  | followed (building sending waiting : List Exchange) (tx : SignedTx)
      (result : Except Error Receipt) (phase : Phase)
      (looking : ∀ x ∈ building, x.question.looksUp = true) (carries : g.Carries target data tx.raw)
      (submitted : Submitted tx sending) (waited : Waited tx.hash waiting result phase) :
    Attempted g target data
      (⟨.acquire .nonce, ()⟩ :: (building ++ sending ++ ⟨.release .nonce, ()⟩ :: waiting))
      ⟨some tx.hash, phase, result⟩

/-- The ways in which a broadcast can end. -/
theorem broadcast_yields {t : List Exchange} {result : Except Error Word} {life : Lifecycle}
    (h : (g.broadcast target data (.start label)).Yields t (result, life)) :
    ∃ building sending,
      t = ⟨.acquire .nonce, ()⟩ :: (building ++ sending ++ [⟨.release .nonce, ()⟩]) ∧
      (∀ x ∈ building, x.question.looksUp = true) ∧
      ((∃ e, result = .error e ∧ life.fail = ⟨label, .failed, none⟩ ∧ sending = [] ∧
          Unsigned building e) ∨
        ∃ tx, g.Carries target data tx.raw ∧
          ((result = .ok tx.hash ∧ life = ⟨label, .submitted, some tx.hash⟩ ∧
              Submitted tx sending) ∨
            ∃ e, result = .error e ∧ life = ⟨label, .failed, some tx.hash⟩ ∧
              Refused tx sending e)) := by
  unfold broadcast at h
  rw [yields_request_bind] at h
  obtain ⟨⟨⟩, t, rfl, h⟩ := h
  rw [yields_monad_bind] at h
  obtain ⟨building, t, ⟨built, life'⟩, rfl, hb, h⟩ := h
  have looking := (build_looksUp g target data (.start label)).question_of_yields hb
  obtain ⟨e, rfl, hl, unsigned⟩ | ⟨tx, rfl, rfl, carries⟩ := build_yields hb
  · obtain ⟨⟨⟩, t, rfl, rfl, h⟩ := h
    cases h
    exact ⟨building, [], by simp, looking, .inl ⟨e, rfl, hl, rfl, unsigned⟩⟩
  · rw [yields_monad_bind] at h
    obtain ⟨sending, t, submitted, rfl, hs, h⟩ := h
    obtain ⟨⟨⟩, t, rfl, rfl, h⟩ := h
    cases h
    exact ⟨building, sending, by simp, looking, .inr ⟨tx, carries, submit_yields hs⟩⟩

theorem sendAndConfirm_attempted {t : List Exchange} {a : TxAttempt}
    (h : (g.sendAndConfirm label target data).Yields t a) : Attempted g target data t a := by
  unfold sendAndConfirm at h
  rw [yields_monad_bind] at h
  obtain ⟨t, waiting, ⟨sent, life⟩, rfl, hs, h⟩ := h
  obtain ⟨building, sending, rfl, looking, ⟨e, rfl, hl, rfl, unsigned⟩ | ⟨tx, carries, hs⟩⟩ :=
    broadcast_yields hs
  · obtain ⟨rfl, rfl⟩ := h
    simp only [hl, List.append_nil]
    exact .unsent building e looking unsigned
  obtain ⟨rfl, rfl, submitted⟩ | ⟨e, rfl, rfl, refused⟩ := hs
  · rw [yields_monad_bind] at h
    obtain ⟨waiting, t, ⟨result, life⟩, rfl, hw, h⟩ := h
    obtain ⟨rfl, rfl⟩ := h
    obtain ⟨phase, rfl, waited⟩ := waitForReceipt_yields hw
    have followed := Attempted.followed building sending waiting tx result phase looking carries
      submitted waited
    simpa using followed
  · obtain ⟨rfl, rfl⟩ := h
    rw [List.append_nil]
    exact .refused building sending tx e looking carries refused

/-! ## What an attempt can come to ask -/

theorem submit_sends {P : Bytes → Prop} {tx : SignedTx} (h : P tx.raw) (life : Lifecycle) :
    (submit tx life).Asks (Ask.Sends P) := by
  refine ⟨h, fun sent => ?_⟩
  cases sent with
  | ok echoed => trivial
  | error e =>
  refine ⟨Ask.sends_of_looksUp rfl, fun answer => ?_⟩
  cases answer with
  | error lookupError => trivial
  | ok seen => cases seen <;> trivial

theorem pollFrom_waits (g : Gateway) (hash : Word) (deadline : Nat) (life : Lifecycle)
    (reached : Nat) :
    (g.pollFrom hash deadline life reached).Asks fun q => q.waits = true := by
  induction reached using pollFrom.induct g deadline with
  | case1 reached ih =>
  rw [pollFrom]
  refine ⟨rfl, fun answer => ?_⟩
  cases hf : found? answer with
  | some receipt =>
    simp only [hf]
    trivial
  | none =>
  simp only [hf]
  refine ⟨rfl, fun now => ?_⟩
  dsimp only
  split
  · rename_i hn
    refine ⟨rfl, fun ended => ?_⟩
    cases ended with
    | elapsed => exact ih now hn
    | stopped => trivial
  · trivial

theorem waitForReceipt_waits (g : Gateway) (hash : Word) (life : Lifecycle) :
    (g.waitForReceipt hash life).Asks fun q => q.waits = true := by
  refine ⟨rfl, fun now => ?_⟩
  simp only [Program.bind]
  cases deadline? g.settings now with
  | none => trivial
  | some deadline => exact pollFrom_waits ..

theorem waitForReceipt_looksUp (g : Gateway) (hash : Word) (life : Lifecycle) :
    (g.waitForReceipt hash life).Asks fun q => q.looksUp = true :=
  (waitForReceipt_waits g hash life).imp fun _ => Ask.looksUp_of_waits

/-- An attempt broadcasts nothing but what was built for it. -/
theorem sendAndConfirm_sends_of {P : Bytes → Prop}
    (built : ∀ t tx life,
      (g.build target data (.start label)).Yields t (.ok tx, life) → P tx.raw) :
    (g.sendAndConfirm label target data).Asks (Ask.Sends P) := by
  have release (submitted : Stepped Word) :
      (request (.release .nonce) >>= fun _ => pure submitted).Asks (Ask.Sends P) :=
    ⟨trivial, fun _ => trivial⟩
  have broadcast : (g.broadcast target data (.start label)).Asks (Ask.Sends P) := by
    have build := (build_looksUp g target data (.start label)).imp fun q =>
      Ask.sends_of_looksUp (P := P)
    refine ⟨trivial, fun _ => build.bind_of_yields fun t ⟨result, life⟩ hb => ?_⟩
    cases result with
    | error e => exact release _
    | ok tx => exact (submit_sends (built t tx life hb) life).bind release
  refine broadcast.bind fun ⟨sent, life⟩ => ?_
  cases sent with
  | error e => trivial
  | ok hash =>
    exact ((waitForReceipt_looksUp g hash life).imp fun q => Ask.sends_of_looksUp).bind
      fun _ => trivial

/-- Whatever the node answers, an attempt broadcasts nothing but its own call, signed with the
gateway's key. -/
theorem sendAndConfirm_sends (g : Gateway) (label : String) (target : Address) (data : Bytes) :
    (g.sendAndConfirm label target data).Asks (Ask.Sends (g.Carries target data)) := by
  refine sendAndConfirm_sends_of fun t tx life hb => ?_
  obtain ⟨e, failed, -⟩ | ⟨tx, same, -, carries⟩ := build_yields hb
  · cases failed
  · cases same
    exact carries

end Gateway

end Registrar
