import Registrar.Proofs.Attempt

/-! What an attempt reports about a transaction that the node holds, in its pool or in the chain. -/
namespace Registrar
set_option autoImplicit false

open Program

variable {σ : Type} {h : Surroundings σ} {holds : σ → Word → Prop}

/-! ## The node's side -/

/-- `holds s hash` tells which transactions the node holds in the state `s`: none that it denies to
know, and none but those that were broadcast to it. -/
structure Holding (h : Surroundings σ) (holds : σ → Word → Prop) : Prop where
  denied : ∀ s hash, (h (.node (.transactionStatus hash)) s).1 = .ok none → ¬holds s hash
  added : ∀ s q hash, holds (h q s).2 hash →
    holds s hash ∨ ∃ raw, q = .node (.sendRaw raw) ∧ Transaction.hashRaw raw = hash

theorem Holding.before (holding : Holding h holds) {hash : Word} {t : List Exchange}
    (silent : Silent t) {s : σ} (held : holds (after h t s) hash) : holds s hash := by
  -- `held` is about the last state, and is carried back over one exchange after another
  induction t generalizing s with
  | nil => exact held
  | cons x t ih =>
    have silent := List.forall_mem_cons.1 silent
    obtain held | ⟨raw, hq, -⟩ := holding.added _ _ _ (ih silent.2 held)
    · exact held
    · exact absurd hq (silent.1 raw)

/-! ## What the gateway saw of a transaction -/

/-- A receipt told that the transaction failed on chain. -/
def SeenReverted (t : List Exchange) (hash : Word) : Prop :=
  ∃ receipt, ⟨.node (.receipt hash), .ok (some receipt)⟩ ∈ t ∧ receipt.success = false

/-- The broadcast was answered by an error, and so was the look-up of the transaction. -/
def LostFromSight (t : List Exchange) (hash : Word) : Prop :=
  ∃ raw sendError lookupError, Transaction.hashRaw raw = hash ∧
    ⟨.node (.sendRaw raw), .error sendError⟩ ∈ t ∧
    ⟨.node (.transactionStatus hash), .error lookupError⟩ ∈ t

/-- The broadcast was answered by an error, and the look-up by a denial of the transaction. -/
def Denied (t : List Exchange) (hash : Word) : Prop :=
  ∃ raw sendError, Transaction.hashRaw raw = hash ∧
    ⟨.node (.sendRaw raw), .error sendError⟩ ∈ t ∧
    ⟨.node (.transactionStatus hash), .ok none⟩ ∈ t

/-- A transaction that the node denies to know is still not held once nothing more was broadcast. -/
theorem Holding.not_held (holding : Holding h holds) {α : Type} {p : Program α} {s : σ}
    {hash : Word} {t u : List Exchange} (silent : Silent u)
    (ht : p.transcript h s = t ++ ⟨.node (.transactionStatus hash), .ok none⟩ :: u) :
    ¬holds (p.run h s).2 hash := by
  intro held
  rw [run_state, ht, after_append] at held
  have later : Silent (⟨.node (.transactionStatus hash), .ok none⟩ :: u) :=
    List.forall_mem_cons.2 ⟨fun raw => nofun, silent⟩
  exact holding.denied _ _ (transcript_answer h p s ht).symm (holding.before later held)

namespace Gateway

variable {g : Gateway} {target : Address} {data : Bytes} {label : String}

theorem Refused.error {tx : SignedTx} {t : List Exchange} {e : Error} (refused : Refused tx t e) :
    ∃ txHash details, e = .sendFailed txHash details := by
  obtain ⟨sendError, answer, unseen⟩ := refused
  exact ⟨_, _, rfl⟩

theorem Refused.cases {tx : SignedTx} {t : List Exchange} {e : Error} (refused : Refused tx t e) :
    (∃ sendError lookupError, t =
      [⟨.node (.sendRaw tx.raw), .error sendError⟩,
        ⟨.node (.transactionStatus tx.hash), .error lookupError⟩]) ∨
    ∃ sendError, t =
      [⟨.node (.sendRaw tx.raw), .error sendError⟩,
        ⟨.node (.transactionStatus tx.hash), .ok none⟩] := by
  obtain ⟨sendError, answer, unseen⟩ := refused
  cases answer with
  | error lookupError => exact .inl ⟨sendError, lookupError, rfl⟩
  | ok seen =>
    cases seen with
    | none => exact .inr ⟨sendError, rfl⟩
    | some seen => exact absurd rfl (unseen seen)

/-- The status of an attempt that reached the node, by what the gateway saw. -/
theorem Attempted.status_cases {t : List Exchange} {a : TxAttempt}
    (attempted : Attempted g target data t a) :
    (Silent t ∧ a.txHash = none) ∨
    ∃ tx : SignedTx, a.txHash = some tx.hash ∧
      (a.status = .confirmed tx.hash ∨ (∃ reason, a.status = .unknown (some tx.hash) reason) ∨
        ∃ reason, a.status = .failed (some tx.hash) reason ∧
          (SeenReverted t tx.hash ∨ LostFromSight t tx.hash ∨
            Denied t tx.hash ∧ ∃ u, t =
              u ++ [⟨.node (.transactionStatus tx.hash), .ok none⟩, ⟨.release .nonce, ()⟩])) := by
  cases attempted with
  | unsent building e looking unsigned =>
    refine .inl ⟨List.forall_mem_cons.2 ⟨fun raw => nofun, List.forall_mem_append.2 ⟨?_, ?_⟩⟩, rfl⟩
    · exact silent_of_looksUp looking
    · exact silent_release _
  | refused building sending tx e looking carries refused =>
    obtain ⟨sendError, reason, rfl⟩ := refused.error
    refine .inr ⟨tx, rfl, .inr (.inr ⟨_, rfl, .inr ?_⟩)⟩
    obtain ⟨sendError, lookupError, rfl⟩ | ⟨sendError, rfl⟩ := refused.cases
    · exact .inl ⟨tx.raw, sendError, lookupError, rfl, by simp, by simp⟩
    · refine .inr ⟨⟨tx.raw, sendError, rfl, by simp, by simp⟩, ⟨.acquire .nonce, ()⟩ ::
        (building ++ [⟨.node (.sendRaw tx.raw), .error sendError⟩]), ?_⟩
      simp
  | followed building sending waiting tx result phase looking carries submitted waited =>
    refine .inr ⟨tx, rfl, ?_⟩
    cases waited with
    | confirmed idle receipt hidle hr => exact .inl rfl
    | reverted idle receipt hidle hr =>
      refine .inr (.inr ⟨_, rfl, .inl ⟨receipt, ?_, hr⟩⟩)
      simp
    | cancelled idle reason hidle => exact .inr (.inl ⟨_, rfl⟩)

/-! ## A node that takes every broadcast -/

def sampleExclusions : ExclusionTable :=
  .ofRecords [⟨.replicate 48 1, ⟨true, true⟩⟩] 0

/-- A node that takes what is broadcast and mines nothing. When it is `faulty`, its answers to
broadcasts and look-ups are lost. Its state is what it has taken. -/
def takingNode (faulty : Bool) : Surroundings (List Bytes)
  | .node .chainId, pool => (.ok 1, pool)
  | .node (.call ..), pool => (.ok [], pool)
  | .node .gasPrice, pool => (.ok 1, pool)
  | .node .priorityFee, pool => (.ok 1, pool)
  | .node (.estimateGas ..), pool => (.ok 21000, pool)
  | .node (.pendingNonce _), pool => (.ok 0, pool)
  | .node (.sendRaw raw), pool =>
    (if faulty then .error (.nodeRpc "eth_sendRawTransaction" "reply lost")
      else .ok (Transaction.hashRaw raw), raw :: pool)
  | .node (.transactionStatus hash), pool =>
    (if faulty then .error (.nodeRpc "eth_getTransactionByHash" "reply lost")
      else .ok (if pool.any fun raw => Transaction.hashRaw raw = hash then some .pending else none),
      pool)
  | .node (.receipt _), pool => (.ok none, pool)
  | .clock, pool => (0, pool)
  | .pause _, pool => (.elapsed, pool)
  | .listKeys, pool => (.ok [], pool)
  | .signRegistration _, pool => (.error (.remoteSigner "sign" "absent"), pool)
  | .authorize .., pool => (.error (.secondarySignature "" "absent"), pool)
  | .exclusions, pool => (sampleExclusions, pool)
  | .acquire _, pool | .release _, pool | .observe _, pool => ((), pool)

def InPool (pool : List Bytes) (hash : Word) : Prop :=
  ∃ raw ∈ pool, Transaction.hashRaw raw = hash

theorem holding_takingNode (faulty : Bool) : Holding (takingNode faulty) InPool where
  denied pool hash answered := by
    cases faulty with
    | true => cases answered
    | false =>
      rintro ⟨raw, hraw, hhash⟩
      have known : (pool.any fun raw => Transaction.hashRaw raw = hash) = true :=
        List.any_eq_true.2 ⟨raw, hraw, by simpa using hhash⟩
      simp [takingNode, known] at answered
  added pool q hash held := by
    cases q with
    | node c =>
      cases c with
      | sendRaw raw =>
        obtain ⟨raw', hraw, rfl⟩ := held
        obtain rfl | hraw := List.mem_cons.1 hraw
        · exact .inr ⟨_, rfl, rfl⟩
        · exact .inl ⟨_, hraw, rfl⟩
      | _ => exact .inl held
    | _ => exact .inl held

theorem not_seenReverted_takingNode (faulty : Bool) {α : Type} (p : Program α) (pool : List Bytes)
    (hash : Word) : ¬SeenReverted (p.transcript (takingNode faulty) pool) hash := by
  rintro ⟨receipt, hx, -⟩
  obtain ⟨t, u, ht⟩ := List.append_of_mem hx
  have answer := transcript_answer (takingNode faulty) p pool ht
  cases answer

/-- A gateway that does not wait for receipts. -/
def hastyGateway (key : Crypto.Secp256k1.PrivateKey) : Gateway where
  signer := .ofKey key
  settings :=
    { chainId := 1, maxGasPrice := 10, pollInterval := 0, confirmationTimeout := 0
      multicall := .zero, horizon := none }

/-- The transaction that it makes of a call, given the answers of `takingNode`. -/
def hastyCall (target : Address) (data : Bytes) : Transaction :=
  { chainId := 1, nonce := 0, gasLimit := gasLimitOf 21000, maxFeePerGas := 2
    maxPriorityFeePerGas := 1, target, input := data }

section

variable {key : Crypto.Secp256k1.PrivateKey} {raw : Bytes}

theorem run_build_hasty (key : Crypto.Secp256k1.PrivateKey) (faulty : Bool) (target : Address)
    (data : Bytes) (life : Lifecycle) :
    ((hastyGateway key).build target data life).run (takingNode faulty) [] =
      (some (takeSigned (hastyCall target data) life ((hastyCall target data).sign? key)), []) :=
  rfl

/-- How the broadcast of a raw form with this hash ends. -/
def sampleBroadcast (label : String) (hash : Word) : Bool → Stepped Word
  | true =>
    (.error (.sendFailed hash.toHex (Error.nodeRpc "eth_sendRawTransaction" "reply lost").text),
      ⟨label, .failed, some hash⟩)
  | false => (.ok hash, ⟨label, .submitted, some hash⟩)

theorem run_broadcast_hasty (faulty : Bool)
    (signed : (hastyCall target data).sign? key = some raw) :
    ((hastyGateway key).broadcast target data (.start label)).run (takingNode faulty) [] =
      (some (sampleBroadcast label (Transaction.hashRaw raw) faulty), [raw]) := by
  have built := run_build_hasty key faulty target data (.start label)
  rw [signed] at built
  have acquired : (request (.acquire .nonce)).run (takingNode faulty) [] = (some (), []) := rfl
  rw [broadcast, run_bind_of_run acquired, run_bind_of_run built]
  cases faulty <;> rfl

def sampleAttempt (hash : Word) : Bool → TxAttempt
  | true =>
    ⟨some hash, .failed,
      .error (.sendFailed hash.toHex (Error.nodeRpc "eth_sendRawTransaction" "reply lost").text)⟩
  | false =>
    ⟨some hash, .pending, .error (.confirmationCancelled hash.toHex "confirmation timeout")⟩

theorem run_attempt_hasty (label : String) (faulty : Bool)
    (signed : (hastyCall target data).sign? key = some raw) :
    ((hastyGateway key).sendAndConfirm label target data).run (takingNode faulty) [] =
      (some (sampleAttempt (Transaction.hashRaw raw) faulty), [raw]) := by
  rw [sendAndConfirm, run_bind_of_run (run_broadcast_hasty faulty signed)]
  cases faulty with
  | true => rfl
  | false =>
    -- The clock stands at the deadline, so that the first poll is the last.
    have polled (hash : Word) :
        ((hastyGateway key).pollFrom hash 0 ⟨label, .pending, some hash⟩ 0).run
            (takingNode false) [raw] =
          (some (.error (.confirmationCancelled hash.toHex "confirmation timeout"),
            ⟨label, .pending, some hash⟩), [raw]) := by
      rw [pollFrom]
      rfl
    exact run_bind_of_run (polled _)

/-- What is asked for the call where the node has a receipt at the first poll. -/
def hastySending (key : Crypto.Secp256k1.PrivateKey) (target : Address) (data raw : Bytes)
    (receipt : Receipt) : List Exchange :=
  [⟨.acquire .nonce, ()⟩, ⟨.node .gasPrice, .ok 1⟩, ⟨.node .priorityFee, .ok 1⟩,
    ⟨.node (.estimateGas (hastyGateway key).signer.address target data), .ok 21000⟩,
    ⟨.node (.pendingNonce (hastyGateway key).signer.address), .ok 0⟩,
    ⟨.node (.sendRaw raw), .ok (Transaction.hashRaw raw)⟩, ⟨.release .nonce, ()⟩, ⟨.clock, 0⟩,
    ⟨.node (.receipt (Transaction.hashRaw raw)), .ok (some receipt)⟩]

def settledAttempt (hash : Word) (receipt : Receipt) : TxAttempt :=
  if receipt.success then ⟨some hash, .confirmed, .ok receipt⟩
  else ⟨some hash, .failed, .error (.transactionReverted hash.toHex receipt.blockNumber)⟩

/-- What is asked before the broadcast where the node tells this nonce. -/
def hastyOpening (key : Crypto.Secp256k1.PrivateKey) (target : Address) (data : Bytes)
    (nonce : UInt64) : List Exchange :=
  [⟨.acquire .nonce, ()⟩, ⟨.node .gasPrice, .ok 1⟩, ⟨.node .priorityFee, .ok 1⟩,
    ⟨.node (.estimateGas (hastyGateway key).signer.address target data), .ok 21000⟩,
    ⟨.node (.pendingNonce (hastyGateway key).signer.address), .ok nonce⟩]

theorem Submitted.yields {tx : SignedTx} {t : List Exchange} (h : Submitted tx t)
    (label : String) :
    (submit tx ⟨label, .signed, some tx.hash⟩).Yields t
      (.ok tx.hash, ⟨label, .submitted, some tx.hash⟩) := by
  cases h with
  | taken echoed => exact ⟨.ok echoed, _, rfl, rfl, rfl⟩
  | known e seen => exact ⟨.error e, _, rfl, .ok (some seen), _, rfl, rfl, rfl⟩

theorem broadcast_yields_of_quoted {g : Gateway} {q : Quote} (label : String)
    {sending : List Exchange} (within : q.gasPrice ≤ g.settings.maxGasPrice)
    (signed : (q.transaction g target data).sign? g.signer.key = some raw)
    (submitted : Submitted ⟨raw, q.nonce, gasLimitOf q.estimate⟩ sending) :
    (g.broadcast target data (.start label)).Yields
      (⟨.acquire .nonce, ()⟩ ::
        (q.exchanges g target data ++ (sending ++ [⟨.release .nonce, ()⟩])))
      (.ok (Transaction.hashRaw raw), ⟨label, .submitted, some (Transaction.hashRaw raw)⟩) := by
  have built : (g.build target data (.start label)).Yields (q.exchanges g target data)
      (takeSigned (q.transaction g target data) (.start label)
        ((q.transaction g target data).sign? g.signer.key)) :=
    (build_yields_of_quoted within).2 rfl
  rw [signed] at built
  refine yields_request_bind.2 ⟨(), _, rfl, yields_monad_bind.2 ⟨_, _, _, rfl, built, ?_⟩⟩
  exact yields_monad_bind.2 ⟨_, _, _, rfl, submitted.yields label, (), _, rfl, rfl, rfl⟩

theorem broadcast_yields_hasty (label : String) (nonce : UInt64) {sending : List Exchange}
    (signed : ({ hastyCall target data with nonce } : Transaction).sign? key = some raw)
    (submitted : Submitted ⟨raw, nonce, gasLimitOf 21000⟩ sending) :
    ((hastyGateway key).broadcast target data (.start label)).Yields
      (hastyOpening key target data nonce ++ (sending ++ [⟨.release .nonce, ()⟩]))
      (.ok (Transaction.hashRaw raw), ⟨label, .submitted, some (Transaction.hashRaw raw)⟩) :=
  broadcast_yields_of_quoted (g := hastyGateway key) (q := ⟨1, 1, 21000, nonce⟩) label
    (show 1 ≤ 10 by omega) signed submitted

theorem attempt_yields_hasty (label : String) (receipt : Receipt)
    (signed : (hastyCall target data).sign? key = some raw) :
    ((hastyGateway key).sendAndConfirm label target data).Yields
      (hastySending key target data raw receipt)
      (settledAttempt (Transaction.hashRaw raw) receipt) := by
  have sent : ((hastyGateway key).broadcast target data (.start label)).Yields
      ((hastySending key target data raw receipt).take 7)
      (.ok (Transaction.hashRaw raw), ⟨label, .submitted, some (Transaction.hashRaw raw)⟩) :=
    broadcast_yields_hasty label 0 signed (.taken _)
  have polled : ((hastyGateway key).waitForReceipt (Transaction.hashRaw raw)
      ⟨label, .submitted, some (Transaction.hashRaw raw)⟩).Yields
      ((hastySending key target data raw receipt).drop 7)
      (conclude (Transaction.hashRaw raw) receipt
        ⟨label, .pending, some (Transaction.hashRaw raw)⟩) := by
    refine ⟨0, _, rfl, ?_⟩
    change ((hastyGateway key).pollFrom _ 0 _ 0).Yields _ _
    rw [pollFrom]
    exact ⟨.ok (some receipt), _, rfl, rfl, rfl⟩
  refine yields_monad_bind.2 ⟨_, _, _, rfl, sent, ?_⟩
  refine yields_monad_bind.2 ⟨_, [], _, rfl, polled, rfl, ?_⟩
  obtain ⟨success, block⟩ := receipt
  cases success <;> rfl

end

def sampleKey : Crypto.Secp256k1.PrivateKey :=
  ⟨1, by decide, by decide +kernel⟩

set_option maxRecDepth 100000 in
theorem emptyCall_signed : ∃ raw, (hastyCall .zero []).sign? sampleKey = some raw := by
  have signed : ((hastyCall .zero []).sign? sampleKey).isSome = true := by decide +kernel
  exact Option.isSome_iff_exists.1 signed

/-! ## Held and reported -/

/-- An attempt is reported as failed only when nothing was broadcast, a receipt told that the
transaction failed, or the broadcast was answered by an error and the look-up did not report the
transaction. -/
theorem Attempted.of_failed {t : List Exchange} {a : TxAttempt} {txHash : Option Word}
    {reason : String} (attempted : Attempted g target data t a)
    (failed : a.status = .failed txHash reason) :
    Silent t ∨ ∃ hash, txHash = some hash ∧
      (SeenReverted t hash ∨ LostFromSight t hash ∨ Denied t hash ∧ ∃ u, t =
        u ++ [⟨.node (.transactionStatus hash), .ok none⟩, ⟨.release .nonce, ()⟩]) := by
  obtain ⟨silent, -⟩ | ⟨tx, -, confirmed | ⟨_, unknown⟩ | ⟨_, failed', seen⟩⟩ :=
    attempted.status_cases
  · exact .inl silent
  · rw [confirmed] at failed
    cases failed
  · rw [unknown] at failed
    cases failed
  · rw [failed'] at failed
    cases failed
    exact .inr ⟨tx.hash, rfl, seen⟩

/-- For every node: an attempt is reported as failed only when nothing was broadcast, a receipt told
that the transaction failed, or the broadcast was answered by an error and the look-up either by an
error or by a denial. For every node whose denials are true: an attempt whose transaction the node
holds is reported as confirmed or unknown, unless a receipt told that the transaction failed, or the
broadcast and the look-up were both answered by an error; in every other case in which it is
reported as failed, nothing was broadcast or the node does not hold the transaction. -/
theorem sendAndConfirm_status {s s' : σ} {a : TxAttempt}
    (run : (g.sendAndConfirm label target data).run h s = (some a, s')) :
    (∀ txHash reason, a.status = .failed txHash reason →
      Silent ((g.sendAndConfirm label target data).transcript h s) ∨
        ∃ hash, txHash = some hash ∧
          (SeenReverted ((g.sendAndConfirm label target data).transcript h s) hash ∨
            LostFromSight ((g.sendAndConfirm label target data).transcript h s) hash ∨
            Denied ((g.sendAndConfirm label target data).transcript h s) hash)) ∧
    ∀ holds : σ → Word → Prop, Holding h holds →
      (∀ hash, a.txHash = some hash → holds s' hash →
        a.status = .confirmed hash ∨ (∃ reason, a.status = .unknown (some hash) reason) ∨
          SeenReverted ((g.sendAndConfirm label target data).transcript h s) hash ∨
          LostFromSight ((g.sendAndConfirm label target data).transcript h s) hash) ∧
      ∀ txHash reason, a.status = .failed txHash reason →
        Silent ((g.sendAndConfirm label target data).transcript h s) ∨
          ∃ hash, txHash = some hash ∧
            (SeenReverted ((g.sendAndConfirm label target data).transcript h s) hash ∨
              LostFromSight ((g.sendAndConfirm label target data).transcript h s) hash ∨
              ¬holds s' hash) := by
  have attempted := sendAndConfirm_attempted (yields_transcript h _ s (congrArg Prod.fst run))
  have state : ((g.sendAndConfirm label target data).run h s).2 = s' := congrArg Prod.snd run
  have absent {holds : σ → Word → Prop} (holding : Holding h holds) {hash : Word}
      (denied : ∃ u, (g.sendAndConfirm label target data).transcript h s =
        u ++ [⟨.node (.transactionStatus hash), .ok none⟩, ⟨.release .nonce, ()⟩]) :
      ¬holds s' hash := by
    obtain ⟨u, ht⟩ := denied
    rw [← state]
    exact holding.not_held (silent_release _) ht
  refine ⟨fun txHash reason failed => ?_, fun holds holding => ⟨fun hash some held => ?_,
    fun txHash reason failed => ?_⟩⟩
  · obtain silent | ⟨hash, rfl, reverted | lost | ⟨denied, -⟩⟩ := attempted.of_failed failed
    · exact .inl silent
    · exact .inr ⟨hash, rfl, .inl reverted⟩
    · exact .inr ⟨hash, rfl, .inr (.inl lost)⟩
    · exact .inr ⟨hash, rfl, .inr (.inr denied)⟩
  · obtain ⟨-, none⟩ | ⟨tx, txHash, cases⟩ := attempted.status_cases
    · rw [none] at some
      cases some
    obtain rfl : tx.hash = hash := Option.some.inj (txHash.symm.trans some)
    obtain confirmed | unknown | ⟨reason, -, reverted | lost | ⟨-, denied⟩⟩ := cases
    · exact .inl confirmed
    · exact .inr (.inl unknown)
    · exact .inr (.inr (.inl reverted))
    · exact .inr (.inr (.inr lost))
    · exact absurd held (absent holding denied)
  · obtain silent | ⟨hash, rfl, reverted | lost | ⟨-, denied⟩⟩ := attempted.of_failed failed
    · exact .inl silent
    · exact .inr ⟨hash, rfl, .inl reverted⟩
    · exact .inr ⟨hash, rfl, .inr (.inl lost)⟩
    · exact .inr ⟨hash, rfl, .inr (.inr (absent holding denied))⟩

/-- The report on a transaction that the node has taken and not mined. -/
theorem sendAndConfirm_status_of_taken :
    ∃ (a : TxAttempt) (pool : List Bytes) (hash : Word),
      Holding (takingNode false) InPool ∧
      ((hastyGateway sampleKey).sendAndConfirm "registry" .zero []).run (takingNode false) [] =
        (some a, pool) ∧
      a.txHash = some hash ∧ InPool pool hash ∧
      (a.status = .confirmed hash ∨ (∃ reason, a.status = .unknown (some hash) reason) ∨
        SeenReverted (((hastyGateway sampleKey).sendAndConfirm "registry" .zero []).transcript
          (takingNode false) []) hash ∨
        LostFromSight (((hastyGateway sampleKey).sendAndConfirm "registry" .zero []).transcript
          (takingNode false) []) hash) := by
  obtain ⟨raw, signed⟩ := emptyCall_signed
  have holding := holding_takingNode false
  have run := run_attempt_hasty "registry" false signed
  have held : InPool [raw] (Transaction.hashRaw raw) := ⟨raw, List.mem_singleton_self raw, rfl⟩
  exact ⟨_, _, _, holding, run, rfl, held,
    ((sendAndConfirm_status run).2 InPool holding).1 _ rfl held⟩

/-- The exception is real: where both answers are lost, a transaction that the node has taken is
reported as failed, and no receipt told so. -/
theorem sendAndConfirm_failed_of_taken :
    ∃ (a : TxAttempt) (pool : List Bytes) (hash : Word) (reason : String),
      Holding (takingNode true) InPool ∧
      ((hastyGateway sampleKey).sendAndConfirm "registry" .zero []).run (takingNode true) [] =
        (some a, pool) ∧
      a.txHash = some hash ∧ InPool pool hash ∧ a.status = .failed (some hash) reason ∧
      ¬SeenReverted (((hastyGateway sampleKey).sendAndConfirm "registry" .zero []).transcript
        (takingNode true) []) hash := by
  obtain ⟨raw, signed⟩ := emptyCall_signed
  refine ⟨_, _, Transaction.hashRaw raw, _, holding_takingNode true,
    run_attempt_hasty "registry" true signed, rfl, ⟨raw, List.mem_singleton_self raw, rfl⟩, rfl, ?_⟩
  exact not_seenReverted_takingNode true _ [] _

end Gateway

end Registrar
