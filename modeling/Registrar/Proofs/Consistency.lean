import Registrar.Proofs.Pool

/-! The three views of an attempt agree: the phase of its lifecycle, the hash that it reports and its
result tell the same of what was signed, broadcast and received. -/
namespace Registrar
set_option autoImplicit false

open Program

/-! ## What was broadcast -/

def Exchange.broadcast? (x : Exchange) : Option Bytes :=
  match x.question with
  | .node (.sendRaw raw) => some raw
  | _ => none

def broadcasts (t : List Exchange) : List Bytes :=
  t.filterMap (·.broadcast?)

theorem broadcasts_append (t u : List Exchange) :
    broadcasts (t ++ u) = broadcasts t ++ broadcasts u :=
  List.filterMap_append

theorem mem_broadcasts {t : List Exchange} {raw : Bytes} :
    raw ∈ broadcasts t ↔ ∃ answer, ⟨.node (.sendRaw raw), answer⟩ ∈ t := by
  rw [broadcasts, List.mem_filterMap]
  constructor
  · rintro ⟨⟨q, answer⟩, hx, same⟩
    unfold Exchange.broadcast? at same
    split at same
    · rename_i raw' hq
      cases hq
      cases same
      exact ⟨answer, hx⟩
    · cases same
  · rintro ⟨answer, hx⟩
    exact ⟨_, hx, rfl⟩

theorem broadcasts_of_silent {t : List Exchange} (h : Silent t) : broadcasts t = [] := by
  refine List.filterMap_eq_nil_iff.2 fun x hx => ?_
  unfold Exchange.broadcast?
  split
  · rename_i raw hq
    exact absurd hq (h x hx raw)
  · rfl

/-! ## Errors -/

/-- The error neither leaves the outcome open nor tells of a forbidden move of the lifecycle. -/
def Error.IsPlain (e : Error) : Prop :=
  (∀ txHash reason, e ≠ .confirmationCancelled txHash reason) ∧
    ∀ origin target, e ≠ .invalidTransition origin target

theorem Error.isAmbiguous_iff {e : Error} :
    e.isAmbiguous = true ↔ ∃ txHash reason, e = .confirmationCancelled txHash reason := by
  cases e <;> simp [isAmbiguous, reach]

/-- What the node failed at is told as a failed call of the node. -/
def NodeFaults (t : List Exchange) : Prop :=
  ∀ c e, ⟨.node c, .error e⟩ ∈ t → ∃ operation details, e = .nodeRpc operation details

/-- Where a success comes with a hash, the status is open exactly when the error is. -/
theorem TxAttempt.status_eq_unknown_iff {a : TxAttempt}
    (known : ∀ receipt, a.result = .ok receipt → ∃ hash, a.txHash = some hash) :
    (∃ txHash reason, a.status = .unknown txHash reason) ↔
      ∃ txHash reason, a.result = .error (.confirmationCancelled txHash reason) := by
  obtain ⟨txHash, phase, result⟩ := a
  cases result with
  | ok receipt =>
    obtain ⟨hash, rfl⟩ := known receipt rfl
    simp [status]
  | error e =>
    cases he : e.isAmbiguous with
    | true =>
      obtain ⟨text, reason, rfl⟩ := Error.isAmbiguous_iff.1 he
      simp [status, he]
    | false =>
      have closed : ∀ text reason, e ≠ .confirmationCancelled text reason :=
        fun text reason same => by simp [Error.isAmbiguous_iff.2 ⟨text, reason, same⟩] at he
      simp [status, he, closed]

namespace Gateway

variable {g : Gateway} {target : Address} {data : Bytes} {label : String}

/-! ## Signing -/

/-- The exchanges begin with all that a transaction is made from, at a gas price within the ceiling,
and `raw` is its signed form. -/
def Quoted (g : Gateway) (target : Address) (data : Bytes) (t : List Exchange) (raw : Bytes) :
    Prop :=
  ∃ q : Quote, q.exchanges g target data <+: t ∧ q.gasPrice ≤ g.settings.maxGasPrice ∧
    (q.transaction g target data).sign? g.signer.key = some raw

/-- An attempt with these exchanges signed the transaction with this raw form. -/
def Signs (g : Gateway) (target : Address) (data : Bytes) (t : List Exchange) (raw : Bytes) :
    Prop :=
  ∃ rest, t = ⟨.acquire .nonce, ()⟩ :: rest ∧ g.Quoted target data rest raw

theorem Quoted.append {t : List Exchange} {raw : Bytes} (h : g.Quoted target data t raw)
    (rest : List Exchange) : g.Quoted target data (t ++ rest) raw := by
  obtain ⟨q, hq, within, signed⟩ := h
  exact ⟨q, hq.trans (List.prefix_append t rest), within, signed⟩

theorem Quoted.unique {t : List Exchange} {raw raw' : Bytes} (h : g.Quoted target data t raw)
    (h' : g.Quoted target data t raw') : raw = raw' := by
  obtain ⟨q, hq, -, signed⟩ := h
  obtain ⟨q', hq', -, signed'⟩ := h'
  have same : q.exchanges g target data = q'.exchanges g target data :=
    List.IsPrefix.eq_of_length (List.prefix_of_prefix_length_le hq hq' (Nat.le_refl _)) rfl
  obtain rfl : q = q' := by simpa [Quote.exchanges, Quote.ext_iff] using same
  exact Option.some.inj (signed.symm.trans signed')

/-- Where something else comes after fewer than four answers, nothing was signed. -/
theorem not_quoted_of_length {t rest : List Exchange} {x : Exchange} {raw : Bytes}
    (h : t.length < 4) (foreign : ∀ q : Quote, x ∉ q.exchanges g target data) :
    ¬g.Quoted target data (t ++ x :: rest) raw := by
  rintro ⟨q, hq, -, -⟩
  have four : (q.exchanges g target data).length = 4 := rfl
  have among : x ∈ q.exchanges g target data := by
    rw [List.prefix_iff_eq_take.1 hq, four]
    have room : 4 - t.length = (3 - t.length) + 1 := by omega
    rw [List.take_append, room]
    simp
  exact foreign q among

/-- Building ends with a transaction exactly when all was answered that it is made from. -/
theorem build_quoted {t : List Exchange} {result : Except Error SignedTx} {life : Lifecycle}
    (h : (g.build target data (.start label)).Yields t (result, life)) :
    ((∃ e, result = .error e ∧
        ∀ rest raw, ¬g.Quoted target data (t ++ ⟨.release .nonce, ()⟩ :: rest) raw) ∨
      ∃ tx, result = .ok tx ∧ g.Quoted target data t tx.raw) ∧
    ∀ gasPrice, ⟨.node .gasPrice, .ok gasPrice⟩ ∈ t → g.settings.maxGasPrice < gasPrice →
      result = .error (.gasPriceTooHigh gasPrice g.settings.maxGasPrice) := by
  generalize stepped : (result, life) = built at h
  cases build_run h with
  | lost answered c e early within =>
    cases stepped
    refine ⟨.inl ⟨e, rfl, fun rest raw => ?_⟩, fun price told above => ?_⟩
    · rw [List.append_assoc]
      exact not_quoted_of_length early fun q => q.error_not_mem
    · obtain told | last := List.mem_append.1 told
      · exact absurd above (Nat.not_lt.2 (within price told))
      · cases List.mem_singleton.1 last
  | dear price above =>
    cases stepped
    refine ⟨.inl ⟨_, rfl, fun rest raw => ?_⟩, by simp⟩
    exact not_quoted_of_length (by simp) fun q => by simp [Quote.exchanges]
  | quoted quote within =>
    constructor
    · change _ = takeSigned _ _ _ at stepped
      cases signing : (quote.transaction g target data).sign? g.signer.key with
      | none =>
        rw [signing] at stepped
        cases stepped
        refine .inl ⟨_, rfl, ?_⟩
        rintro rest raw ⟨q, hq, -, signed⟩
        obtain rfl : q = quote := by simpa [Quote.exchanges, Quote.ext_iff] using hq
        cases signing.symm.trans signed
      | some raw =>
        rw [signing, takeSigned, markSigned_start] at stepped
        cases stepped
        exact .inr ⟨_, rfl, quote, List.prefix_rfl, within, signing⟩
    · intro price told above
      obtain rfl : price = quote.gasPrice := by simpa [Quote.exchanges] using told
      exact absurd above (Nat.not_lt.2 within)

/-! ## The course of an attempt -/

/-- What follows upon building, and how the attempt then ends. -/
inductive Ensues : Except Error SignedTx → List Exchange → TxAttempt → Prop
  | unsent (e : Error) : Ensues (.error e) [⟨.release .nonce, ()⟩] ⟨none, .failed, .error e⟩
  | refused (tx : SignedTx) (sending : List Exchange) (e : Error) (h : Refused tx sending e) :
    Ensues (.ok tx) (sending ++ [⟨.release .nonce, ()⟩]) ⟨some tx.hash, .failed, .error e⟩
  | followed (tx : SignedTx) (sending waiting : List Exchange) (result : Except Error Receipt)
      (phase : Phase) (submitted : Submitted tx sending)
      (waited : Waited tx.hash waiting result phase) :
    Ensues (.ok tx) (sending ++ ⟨.release .nonce, ()⟩ :: waiting) ⟨some tx.hash, phase, result⟩

theorem sendAndConfirm_ensues {t : List Exchange} {a : TxAttempt}
    (h : (g.sendAndConfirm label target data).Yields t a) :
    ∃ building rest built life, t = ⟨.acquire .nonce, ()⟩ :: (building ++ rest) ∧
      (g.build target data (.start label)).Yields building (built, life) ∧
      Ensues built rest a := by
  unfold sendAndConfirm broadcast at h
  rw [yields_monad_bind] at h
  obtain ⟨t, waiting, ⟨sent, life⟩, rfl, hs, h⟩ := h
  rw [yields_request_bind] at hs
  obtain ⟨⟨⟩, t, rfl, hs⟩ := hs
  rw [yields_monad_bind] at hs
  obtain ⟨building, t, ⟨built, life'⟩, rfl, hb, hs⟩ := hs
  obtain ⟨e, rfl, hl, -⟩ | ⟨tx, rfl, rfl, -⟩ := build_yields hb
  · obtain ⟨⟨⟩, t, rfl, rfl, hs⟩ := hs
    cases hs
    obtain ⟨rfl, rfl⟩ := h
    refine ⟨building, [⟨.release .nonce, ()⟩], _, _, by simp, hb, ?_⟩
    rw [hl]
    exact .unsent e
  · rw [yields_monad_bind] at hs
    obtain ⟨sending, t, submitted, rfl, hsub, hs⟩ := hs
    obtain ⟨⟨⟩, t, rfl, rfl, hs⟩ := hs
    cases hs
    obtain ⟨rfl, rfl, submitted⟩ | ⟨e, rfl, rfl, refused⟩ := submit_yields hsub
    · rw [yields_monad_bind] at h
      obtain ⟨waiting, t, ⟨result, life⟩, rfl, hw, rfl, rfl⟩ := h
      obtain ⟨phase, rfl, waited⟩ := waitForReceipt_yields hw
      exact ⟨building, sending ++ ⟨.release .nonce, ()⟩ :: waiting, _, _, by simp, hb,
        .followed tx sending waiting result phase submitted waited⟩
    · obtain ⟨rfl, rfl⟩ := h
      exact ⟨building, sending ++ [⟨.release .nonce, ()⟩], _, _, by simp, hb,
        .refused tx sending e refused⟩

/-! ## What the course of an attempt shows -/

/-- The question is none of building, and polls for no other transaction. -/
def Follows (hash : Word) (q : Ask) : Prop :=
  q ≠ .node .gasPrice ∧ ∀ other, q = .node (.receipt other) → other = hash

theorem follows_release (hash : Word) : Follows hash (.release .nonce) :=
  ⟨nofun, nofun⟩

theorem Submitted.shows {tx : SignedTx} {t : List Exchange} (h : Submitted tx t) :
    broadcasts t = [tx.raw] ∧ ∀ x ∈ t, Follows tx.hash x.question := by
  cases h <;> exact ⟨rfl, by simp [Follows]⟩

theorem Refused.shows {tx : SignedTx} {t : List Exchange} {e : Error} (h : Refused tx t e) :
    broadcasts t = [tx.raw] ∧ ∀ x ∈ t, Follows tx.hash x.question := by
  cases h
  exact ⟨rfl, by simp [Follows]⟩

theorem follows_of_isIdle {hash : Word} {x : Exchange} (h : x.IsIdle hash) :
    Follows hash x.question := by
  obtain ⟨-, polled | clock | ⟨wake, pause⟩⟩ := h
  · rw [polled]
    refine ⟨nofun, fun other same => ?_⟩
    cases same
    rfl
  · rw [clock]
    exact ⟨nofun, nofun⟩
  · rw [pause]
    exact ⟨nofun, nofun⟩

theorem Waited.shows {hash : Word} {t : List Exchange} {result : Except Error Receipt}
    {phase : Phase} (h : Waited hash t result phase) :
    broadcasts t = [] ∧ ∀ x ∈ t, Follows hash x.question := by
  have quiet {idle : List Exchange} (hidle : ∀ x ∈ idle, x.IsIdle hash) : broadcasts idle = [] :=
    broadcasts_of_silent (silent_of_looksUp fun x hx => (hidle x hx).looksUp)
  have last (receipt : Receipt) {idle : List Exchange} (hidle : ∀ x ∈ idle, x.IsIdle hash) :
      broadcasts (idle ++ [⟨.node (.receipt hash), .ok (some receipt)⟩]) = [] ∧
        ∀ x ∈ idle ++ [⟨.node (.receipt hash), .ok (some receipt)⟩], Follows hash x.question := by
    refine ⟨by rw [broadcasts_append, quiet hidle]; rfl, List.forall_mem_append.2 ⟨?_, ?_⟩⟩
    · exact fun x hx => follows_of_isIdle (hidle x hx)
    · simp [Follows]
  cases h with
  | confirmed idle receipt hidle hr => exact last receipt hidle
  | reverted idle receipt hidle hr => exact last receipt hidle
  | cancelled idle reason hidle => exact ⟨quiet hidle, fun x hx => follows_of_isIdle (hidle x hx)⟩

/-- One broadcast for a transaction that was signed, and polls for no other one. -/
theorem Ensues.of_signed {tx : SignedTx} {t : List Exchange} {a : TxAttempt}
    (h : Ensues (.ok tx) t a) :
    a.txHash = some tx.hash ∧ broadcasts t = [tx.raw] ∧ ∀ x ∈ t, Follows tx.hash x.question := by
  cases h with
  | refused tx sending e refused =>
    obtain ⟨once, follows⟩ := refused.shows
    refine ⟨rfl, by rw [broadcasts_append, once]; rfl, List.forall_mem_append.2 ⟨follows, ?_⟩⟩
    simp [follows_release]
  | followed tx sending waiting result phase submitted waited =>
    obtain ⟨once, follows⟩ := submitted.shows
    obtain ⟨quiet, following⟩ := waited.shows
    refine ⟨rfl, ?_, List.forall_mem_append.2 ⟨follows, List.forall_mem_cons.2 ⟨?_, following⟩⟩⟩
    · rw [broadcasts_append, once]
      exact congrArg (tx.raw :: ·) quiet
    · exact follows_release _

theorem Ensues.of_unsigned {e : Error} {t : List Exchange} {a : TxAttempt}
    (h : Ensues (.error e) t a) :
    a = ⟨none, .failed, .error e⟩ ∧ t = [⟨.release .nonce, ()⟩] := by
  cases h
  exact ⟨rfl, rfl⟩

theorem Unsigned.isPlain {t : List Exchange} {e : Error} (h : Unsigned t e) (faults : NodeFaults t) :
    e.IsPlain := by
  cases h with
  | node c e h =>
    obtain ⟨operation, details, rfl⟩ := faults c e h
    exact ⟨nofun, nofun⟩
  | gasPrice suggested ceiling h => exact ⟨nofun, nofun⟩
  | signing details => exact ⟨nofun, nofun⟩

/-- The phase and the result of an attempt, in the three ways in which they agree. -/
theorem Ensues.phase_cases {built : Except Error SignedTx} {t : List Exchange} {a : TxAttempt}
    (h : Ensues built t a) (plain : ∀ e, built = .error e → e.IsPlain) :
    (a.phase = .confirmed ∧ ∃ receipt hash, a.result = .ok receipt ∧ receipt.success = true ∧
        a.txHash = some hash ∧ ⟨.node (.receipt hash), .ok (some receipt)⟩ ∈ t) ∨
      (a.phase = .pending ∧
        ∃ txHash reason, a.result = .error (.confirmationCancelled txHash reason)) ∨
      (a.phase = .failed ∧ ∃ e, a.result = .error e ∧ e.IsPlain) := by
  cases h with
  | unsent e => exact .inr (.inr ⟨rfl, e, rfl, plain e rfl⟩)
  | refused tx sending e refused =>
    obtain ⟨txHash, details, rfl⟩ := refused.error
    exact .inr (.inr ⟨rfl, _, rfl, nofun, nofun⟩)
  | followed tx sending waiting result phase submitted waited =>
    cases waited with
    | confirmed idle receipt hidle hr => exact .inl ⟨rfl, receipt, tx.hash, rfl, hr, rfl, by simp⟩
    | reverted idle receipt hidle hr => exact .inr (.inr ⟨rfl, _, rfl, nofun, nofun⟩)
    | cancelled idle reason hidle => exact .inr (.inl ⟨rfl, _, _, rfl⟩)

/-! ## Attempts are consistent -/

/-- Phase, hash, result and status of an attempt agree with each other and with what was signed,
broadcast and received in its exchanges. -/
structure Consistent (g : Gateway) (target : Address) (data : Bytes) (t : List Exchange)
    (a : TxAttempt) : Prop where
  confirmed : a.phase = .confirmed ↔ ∃ receipt, a.result = .ok receipt
  received : ∀ receipt, a.result = .ok receipt → receipt.success = true ∧
    ∃ hash, a.txHash = some hash ∧ ⟨.node (.receipt hash), .ok (some receipt)⟩ ∈ t
  pending : a.phase = .pending ↔
    ∃ txHash reason, a.result = .error (.confirmationCancelled txHash reason)
  failed : a.phase = .failed ↔
    ∃ e, a.result = .error e ∧ ∀ txHash reason, e ≠ .confirmationCancelled txHash reason
  lawful : ∀ origin target, a.result ≠ .error (.invalidTransition origin target)
  signed : ∀ hash, a.txHash = some hash ↔
    ∃ raw, g.Signs target data t raw ∧ Transaction.hashRaw raw = hash
  sent : ∀ raw, g.Signs target data t raw → broadcasts t = [raw]
  unsent : (∀ raw, ¬g.Signs target data t raw) → broadcasts t = []
  ceiling : ∀ gasPrice, ⟨.node .gasPrice, .ok gasPrice⟩ ∈ t → g.settings.maxGasPrice < gasPrice →
    a.result = .error (.gasPriceTooHigh gasPrice g.settings.maxGasPrice) ∧ broadcasts t = []
  polled : ∀ x ∈ t, ∀ hash, x.question = .node (.receipt hash) → a.txHash = some hash
  open_iff : (∃ txHash reason, a.status = .unknown txHash reason) ↔
    ∃ txHash reason, a.result = .error (.confirmationCancelled txHash reason)

/-- What an attempt signs is the transaction that was built. -/
theorem Ensues.signs_iff {building rest : List Exchange} {built : Except Error SignedTx}
    {life : Lifecycle} {a : TxAttempt} (ensues : Ensues built rest a)
    (hb : (g.build target data (.start label)).Yields building (built, life)) {raw : Bytes} :
    g.Signs target data (⟨.acquire .nonce, ()⟩ :: (building ++ rest)) raw ↔
      ∃ tx, built = .ok tx ∧ tx.raw = raw := by
  constructor
  · rintro ⟨rest', same, quoted⟩
    obtain rfl := (List.cons.inj same).2
    obtain ⟨e, rfl, unquoted⟩ | ⟨tx, rfl, quoted'⟩ := (build_quoted hb).1
    · obtain ⟨-, rfl⟩ := ensues.of_unsigned
      exact absurd quoted (unquoted [] raw)
    · exact ⟨tx, rfl, (quoted'.append rest).unique quoted⟩
  · rintro ⟨tx, rfl, rfl⟩
    obtain ⟨e, same, -⟩ | ⟨tx', same, quoted⟩ := (build_quoted hb).1
    · cases same
    · cases same
      exact ⟨_, rfl, quoted.append rest⟩

/-- The phase tells which kind of result there is. -/
theorem Ensues.phase_iff {built : Except Error SignedTx} {t : List Exchange} {a : TxAttempt}
    (h : Ensues built t a) (plain : ∀ e, built = .error e → e.IsPlain) :
    (a.phase = .confirmed ↔ ∃ receipt, a.result = .ok receipt) ∧
    (a.phase = .pending ↔
      ∃ txHash reason, a.result = .error (.confirmationCancelled txHash reason)) ∧
    (a.phase = .failed ↔
      ∃ e, a.result = .error e ∧ ∀ txHash reason, e ≠ .confirmationCancelled txHash reason) ∧
    ∀ origin target, a.result ≠ .error (.invalidTransition origin target) := by
  obtain ⟨phase, receipt, hash, result, -⟩ | ⟨phase, txHash, reason, result⟩ |
    ⟨phase, e, result, uncancelled, lawful⟩ := h.phase_cases plain
  · simp [phase, result]
  · simp [phase, result]
  · simp [phase, result, uncancelled, lawful]

theorem Ensues.consistent {building rest : List Exchange} {built : Except Error SignedTx}
    {life : Lifecycle} {a : TxAttempt} (ensues : Ensues built rest a)
    (hb : (g.build target data (.start label)).Yields building (built, life))
    (faults : NodeFaults (⟨.acquire .nonce, ()⟩ :: (building ++ rest))) :
    Consistent g target data (⟨.acquire .nonce, ()⟩ :: (building ++ rest)) a := by
  have asked := (build_asks g target data (.start label)).question_of_yields hb
  have opening : broadcasts (⟨.acquire .nonce, ()⟩ :: (building ++ rest)) = broadcasts rest := by
    have quiet := broadcasts_of_silent (silent_of_looksUp fun x hx => (asked x hx).looksUp)
    rw [← List.cons_append, broadcasts_append]
    exact congrArg (· ++ broadcasts rest) quiet
  have plain : ∀ e, built = .error e → e.IsPlain := by
    rintro e rfl
    obtain ⟨e', same, -, unsigned⟩ | ⟨tx, same, -⟩ := build_yields hb
    · cases same
      exact unsigned.isPlain fun c e h => faults c e (by simp [h])
    · cases same
  have received : ∀ receipt, a.result = .ok receipt → receipt.success = true ∧
      ∃ hash, a.txHash = some hash ∧ ⟨.node (.receipt hash), .ok (some receipt)⟩ ∈
        (⟨.acquire .nonce, ()⟩ : Exchange) :: (building ++ rest) := by
    intro receipt ok
    obtain ⟨-, receipt', hash, ok', success, txHash, hx⟩ | ⟨-, _, _, error⟩ | ⟨-, e, error, -⟩ :=
      ensues.phase_cases plain
    · cases ok.symm.trans ok'
      exact ⟨success, hash, txHash, by simp [hx]⟩
    · cases ok.symm.trans error
    · cases ok.symm.trans error
  obtain ⟨confirmed, pending, failed, lawful⟩ := ensues.phase_iff plain
  refine ⟨confirmed, received, pending, failed, lawful, ?signed, ?sent, ?unsent, ?ceiling, ?polled,
    ?status⟩
  case signed =>
    intro hash
    simp only [ensues.signs_iff hb]
    cases built with
    | error e => simp [ensues.of_unsigned.1]
    | ok tx => simp [ensues.of_signed.1, SignedTx.hash]
  case sent =>
    intro raw signs
    obtain ⟨tx, rfl, rfl⟩ := (ensues.signs_iff hb).1 signs
    rw [opening, ensues.of_signed.2.1]
  case unsent =>
    intro unsigned
    cases built with
    | error e =>
      rw [opening, ensues.of_unsigned.2]
      rfl
    | ok tx => exact absurd ((ensues.signs_iff hb).2 ⟨tx, rfl, rfl⟩) (unsigned tx.raw)
  case ceiling =>
    intro gasPrice hx above
    have early : ⟨.node .gasPrice, .ok gasPrice⟩ ∈ building := by
      obtain same | hx := List.mem_cons.1 hx
      · cases same
      obtain hx | hx := List.mem_append.1 hx
      · exact hx
      cases built with
      | error e => simp [ensues.of_unsigned.2] at hx
      | ok tx => exact absurd rfl (ensues.of_signed.2.2 _ hx).1
    obtain rfl := (build_quoted hb).2 gasPrice early above
    obtain ⟨rfl, rfl⟩ := ensues.of_unsigned
    exact ⟨rfl, opening⟩
  case polled =>
    intro x hx hash hq
    obtain rfl | hx := List.mem_cons.1 hx
    · cases hq
    obtain hx | hx := List.mem_append.1 hx
    · obtain same | same | same | same := asked x hx <;> cases hq.symm.trans same
    cases built with
    | error e =>
      rw [ensues.of_unsigned.2] at hx
      rw [List.mem_singleton.1 hx] at hq
      cases hq
    | ok tx => rw [ensues.of_signed.1, (ensues.of_signed.2.2 x hx).2 hash hq]
  case status =>
    exact TxAttempt.status_eq_unknown_iff fun receipt ok =>
      (received receipt ok).2.imp fun _ h => h.1

/-! ## Attempts come to an end -/

theorem not_stalls_build {life : Lifecycle} {t : List Exchange} :
    ¬(g.build target data life).Stalls t := by
  unfold build
  rintro ⟨gasPrice, t, rfl, h⟩
  cases gasPrice with
  | error e => exact h
  | ok gasPrice =>
  simp only [Program.bind] at h
  split at h
  · exact h
  obtain ⟨tip, t, rfl, h⟩ := h
  cases tip with
  | error e => exact h
  | ok tip =>
  obtain ⟨estimate, t, rfl, h⟩ := h
  cases estimate with
  | error e => exact h
  | ok estimate =>
  obtain ⟨nonce, t, rfl, h⟩ := h
  cases nonce <;> exact h

theorem not_stalls_submit {tx : SignedTx} {life : Lifecycle} {t : List Exchange} :
    ¬(submit tx life).Stalls t := by
  unfold submit
  rintro ⟨sent, t, rfl, h⟩
  cases sent with
  | ok echoed => exact h
  | error e =>
  obtain ⟨seen, t, rfl, h⟩ := h
  match seen with
  | .error _ | .ok none | .ok (some _) => exact h

theorem not_stalls_broadcast {life : Lifecycle} {t : List Exchange} :
    ¬(g.broadcast target data life).Stalls t := by
  unfold broadcast
  rw [stalls_monad_bind]
  rintro (⟨⟨⟩, t, rfl, h⟩ | ⟨u, v, ⟨⟩, rfl, -, h⟩)
  · exact h
  rw [stalls_monad_bind] at h
  obtain h | ⟨u, v, ⟨e | tx, life⟩, rfl, -, h⟩ := h
  · exact not_stalls_build h
  · obtain ⟨⟨⟩, t, rfl, h⟩ := h
    exact h
  · rw [stalls_monad_bind] at h
    obtain h | ⟨u, v, sent, rfl, -, ⟨⟩, t, rfl, h⟩ := h
    · exact not_stalls_submit h
    · exact h

/-- The wait takes ever more of the time up to the deadline, so that it ends. -/
theorem not_stalls_pollFrom {hash : Word} {deadline reached : Nat} {life : Lifecycle}
    {t : List Exchange} : ¬(g.pollFrom hash deadline life reached).Stalls t := by
  induction reached using pollFrom.induct g deadline generalizing t with
  | case1 reached ih =>
  rw [pollFrom]
  rintro ⟨answer, t, rfl, h⟩
  cases hf : found? answer with
  | some receipt =>
    simp only [hf] at h
    exact h
  | none =>
  simp only [hf] at h
  obtain ⟨now, t, rfl, h⟩ := h
  dsimp only at h
  split at h
  · rename_i hn
    obtain ⟨ended, t, rfl, h⟩ := h
    cases ended with
    | elapsed => exact ih now hn h
    | stopped => exact h
  · exact h

/-- Only a deadline beyond the clock leaves an attempt without a result, and the transaction is out
by then. -/
theorem sendAndConfirm_stalls_iff {t : List Exchange} :
    (g.sendAndConfirm label target data).Stalls t ↔
      ∃ sent hash life now,
        (g.broadcast target data (.start label)).Yields sent (.ok hash, life) ∧
          t = sent ++ [⟨.clock, now⟩] ∧ deadline? g.settings now = none := by
  unfold sendAndConfirm
  rw [stalls_monad_bind]
  constructor
  · rintro (h | ⟨sent, v, ⟨e | hash, life⟩, rfl, hs, h⟩)
    · exact absurd h not_stalls_broadcast
    · exact h.elim
    rw [stalls_monad_bind] at h
    obtain h | ⟨w, v, ⟨result, life⟩, rfl, -, h⟩ := h
    · unfold waitForReceipt at h
      obtain ⟨now, t, rfl, h⟩ := h
      simp only [Program.bind] at h
      cases hd : deadline? g.settings now with
      | none =>
        rw [hd] at h
        obtain rfl : t = [] := h
        exact ⟨sent, hash, _, now, hs, rfl, hd⟩
      | some deadline =>
        rw [hd] at h
        exact absurd h not_stalls_pollFrom
    · exact h.elim
  · rintro ⟨sent, hash, life, now, hs, rfl, hd⟩
    refine .inr ⟨sent, _, _, rfl, hs, stalls_monad_bind.2 (.inl ?_)⟩
    refine ⟨now, [], rfl, ?_⟩
    simp only [Program.bind, hd]
    rfl

theorem sendAndConfirm_stalls {t : List Exchange}
    (h : (g.sendAndConfirm label target data).Stalls t) :
    ∃ now, ⟨.clock, now⟩ ∈ t ∧ deadline? g.settings now = none := by
  obtain ⟨sent, hash, life, now, -, rfl, hd⟩ := sendAndConfirm_stalls_iff.1 h
  exact ⟨now, by simp, hd⟩

/-- In all surroundings an attempt gives a result unless its deadline lies beyond the clock. Where
the node's errors are failed calls of it, whatever it answers and whenever shutdown is called for,
phase, hash, result and status agree with each other and with what was signed, broadcast and
received. -/
theorem sendAndConfirm_consistent (g : Gateway) (label : String) (target : Address) (data : Bytes) :
    (∀ {σ : Type} (h : Surroundings σ) (s : σ),
      ((g.sendAndConfirm label target data).run h s).1 = none →
        ∃ now, ⟨.clock, now⟩ ∈ (g.sendAndConfirm label target data).transcript h s ∧
          deadline? g.settings now = none) ∧
    ∀ (t : List Exchange) (a : TxAttempt), (g.sendAndConfirm label target data).Yields t a →
      NodeFaults t → Consistent g target data t a := by
  refine ⟨fun h s stuck => sendAndConfirm_stalls (stalls_transcript h _ s stuck), ?_⟩
  intro t a yields faults
  obtain ⟨building, rest, built, life, rfl, hb, ensues⟩ := sendAndConfirm_ensues yields
  exact ensues.consistent hb faults

/-- An attempt whose broadcast and look-up are both answered by errors. -/
theorem sendAndConfirm_consistent_of_lost :
    ∃ (t : List Exchange) (a : TxAttempt) (raw : Bytes),
      ((hastyGateway sampleKey).sendAndConfirm "registry" .zero []).Yields t a ∧ NodeFaults t ∧
        a.txHash = some (Transaction.hashRaw raw) ∧ broadcasts t = [raw] ∧
        Consistent (hastyGateway sampleKey) .zero [] t a := by
  obtain ⟨raw, signed⟩ := emptyCall_signed
  have run := run_attempt_hasty "registry" true signed
  have yields := yields_transcript (takingNode true) _ [] (congrArg Prod.fst run)
  have faults : NodeFaults
      (((hastyGateway sampleKey).sendAndConfirm "registry" .zero []).transcript
        (takingNode true) []) := by
    intro c e hx
    obtain ⟨u, v, ht⟩ := List.append_of_mem hx
    have answer := transcript_answer (takingNode true) _ [] ht
    cases c <;> cases answer <;> exact ⟨_, _, rfl⟩
  have consistent := (sendAndConfirm_consistent (hastyGateway sampleKey) "registry" .zero []).2
    _ _ yields faults
  obtain ⟨raw', signs, hash⟩ := (consistent.signed _).1 rfl
  exact ⟨_, _, raw', yields, faults, by rw [hash]; rfl, consistent.sent raw' signs, consistent⟩

end Gateway

end Registrar
