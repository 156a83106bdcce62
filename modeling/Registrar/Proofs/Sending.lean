import Registrar.Proofs.Holdings

/-! The course of a call as the node sees it: whatever is broadcast or reported stands behind the
readings that it was planned from, and a report of success behind the one broadcast that it is
about. -/
namespace Registrar
set_option autoImplicit false

open Contract
open Program

/-! ## One attempt -/

theorem TxAttempt.result_of_confirmed {a : TxAttempt} {hash : Word}
    (h : a.status = .confirmed hash) : (∃ receipt, a.result = .ok receipt) ∧ a.txHash = some hash := by
  obtain ⟨txHash, phase, result⟩ := a
  cases result with
  | error e =>
    unfold status at h
    dsimp only at h
    split at h <;> cases h
  | ok receipt =>
    cases txHash with
    | none => cases h
    | some hash' =>
      cases h
      exact ⟨⟨receipt, rfl⟩, rfl⟩

namespace Gateway

theorem Waited.looksUp {hash : Word} {t : List Exchange} {result : Except Error Receipt}
    {phase : Phase} (h : Waited hash t result phase) : ∀ x ∈ t, x.question.looksUp = true := by
  cases h with
  | confirmed idle receipt hidle hr | reverted idle receipt hidle hr =>
    exact List.forall_mem_append.2
      ⟨fun x hx => (hidle x hx).looksUp, List.forall_mem_singleton.2 rfl⟩
  | cancelled idle reason hidle => exact fun x hx => (hidle x hx).looksUp

variable {g : Gateway} {target : Address} {data : Bytes} {t : List Exchange} {a : TxAttempt}

/-- An attempt broadcasts nothing, or one transaction with its call. If it ends with a receipt of
success, then that receipt came after the broadcast. -/
theorem Attempted.shows (h : Attempted g target data t a) :
    (broadcasts t = [] ∧ a.txHash = none) ∨
      ∃ raw, g.Carries target data raw ∧ a.txHash = some (Transaction.hashRaw raw) ∧
        broadcasts t = [raw] ∧ ∀ receipt, a.result = .ok receipt → Settled t raw := by
  have built {building : List Exchange} (looking : ∀ x ∈ building, x.question.looksUp = true) :
      broadcasts (⟨.acquire .nonce, ()⟩ :: building) = [] :=
    broadcasts_of_silent (List.forall_mem_cons.2 ⟨nofun, silent_of_looksUp looking⟩)
  have freed (waiting : List Exchange) :
      broadcasts (⟨.release .nonce, ()⟩ :: waiting) = broadcasts waiting := rfl
  cases h with
  | unsent building e looking unsigned =>
    refine .inl ⟨?_, rfl⟩
    rw [← List.cons_append, broadcasts_append, built looking, freed]
    rfl
  | refused building sending tx e looking carries refused =>
    refine .inr ⟨tx.raw, carries, rfl, ?_, nofun⟩
    rw [← List.cons_append, ← List.cons_append, broadcasts_append, broadcasts_append, built looking,
      refused.shows.1, freed]
    rfl
  | followed building sending waiting tx result phase looking carries submitted waited =>
    have sent : broadcasts (⟨.acquire .nonce, ()⟩ :: (building ++ sending)) = [tx.raw] := by
      rw [← List.cons_append, broadcasts_append, built looking, submitted.shows.1]
      rfl
    refine .inr ⟨tx.raw, carries, rfl, ?_, fun receipt ok => ?_⟩
    · rw [← List.cons_append, broadcasts_append, sent, freed, waited.shows.1]
      rfl
    · cases waited with
      | reverted idle receipt hidle hr => cases ok
      | cancelled idle reason hidle => cases ok
      | confirmed idle receipt hidle hr =>
        refine ⟨⟨.acquire .nonce, ()⟩ :: (building ++ sending ++ ⟨.release .nonce, ()⟩ :: idle),
          ⟨.node (.receipt tx.hash), .ok (some receipt)⟩, [], by simp, ?_, receipt, hr, rfl⟩
        rw [← List.cons_append, broadcasts_append, sent]
        exact List.mem_append_left _ (List.mem_singleton_self tx.raw)

theorem Attempted.sends (h : Attempted g target data t a) :
    ∀ x ∈ t, x.question.Sends (g.Carries target data) := by
  have looks {u : List Exchange} (looking : ∀ x ∈ u, x.question.looksUp = true) :
      ∀ x ∈ u, x.question.Sends (g.Carries target data) :=
    fun x hx => Ask.sends_of_looksUp (looking x hx)
  cases h with
  | unsent building e looking unsigned =>
    refine List.forall_mem_cons.2 ⟨trivial, List.forall_mem_append.2 ⟨looks looking, ?_⟩⟩
    exact List.forall_mem_singleton.2 trivial
  | refused building sending tx e looking carries refused =>
    refine List.forall_mem_cons.2 ⟨trivial, List.forall_mem_append.2
      ⟨List.forall_mem_append.2 ⟨looks looking, ?_⟩, List.forall_mem_singleton.2 trivial⟩⟩
    cases refused
    exact List.forall_mem_cons.2 ⟨carries, List.forall_mem_singleton.2 (Ask.sends_of_looksUp rfl)⟩
  | followed building sending waiting tx result phase looking carries submitted waited =>
    refine List.forall_mem_cons.2 ⟨trivial, List.forall_mem_append.2
      ⟨List.forall_mem_append.2 ⟨looks looking, ?_⟩, List.forall_mem_cons.2 ⟨trivial, ?_⟩⟩⟩
    · cases submitted with
      | taken echoed => exact List.forall_mem_singleton.2 carries
      | known e seen =>
        exact List.forall_mem_cons.2
          ⟨carries, List.forall_mem_singleton.2 (Ask.sends_of_looksUp rfl)⟩
    · exact looks waited.looksUp

theorem submit_begins {tx : SignedTx} {life : Lifecycle} (h : (submit tx life).Begins t) :
    broadcasts t = [] ∨ broadcasts t = [tx.raw] := by
  unfold submit at h
  obtain rfl | ⟨answer, rest, rfl, h⟩ := h
  · exact .inl rfl
  right
  have looking : ∀ x ∈ rest, x.question.looksUp = true := by
    cases answer with
    | ok echoed =>
      obtain rfl : rest = [] := h
      exact List.forall_mem_nil _
    | error e =>
      obtain rfl | ⟨seen, rest, rfl, h⟩ := h
      · exact List.forall_mem_nil _
      · obtain rfl : rest = [] := by
          obtain e | none | status := seen <;> exact h
        exact List.forall_mem_singleton.2 rfl
  exact congrArg (tx.raw :: ·) (broadcasts_of_silent (silent_of_looksUp looking))

theorem broadcast_begins {label : String} (h : (g.broadcast target data (.start label)).Begins t) :
    broadcasts t = [] ∨ ∃ raw, g.Carries target data raw ∧ broadcasts t = [raw] := by
  unfold broadcast at h
  rw [begins_request_bind] at h
  obtain rfl | ⟨⟨⟩, t, rfl, h⟩ := h
  · exact .inl rfl
  change broadcasts t = [] ∨ ∃ raw, g.Carries target data raw ∧ broadcasts t = [raw]
  have builds := build_looksUp g target data (.start label)
  obtain h | ⟨building, rest, ⟨built, life⟩, rfl, hb, h⟩ := begins_monad_bind.1 h
  · exact .inl (broadcasts_of_silent (silent_of_looksUp (builds.question_of_begins h)))
  rw [broadcasts_append, broadcasts_of_silent (silent_of_looksUp (builds.question_of_yields hb)),
    List.nil_append]
  have freed {u : List Exchange} {submitted : Stepped Word}
      (h : (request (.release .nonce) >>= fun _ => pure submitted).Begins u) :
      broadcasts u = [] := by
    obtain rfl | ⟨⟨⟩, u, rfl, hu⟩ := h
    · rfl
    · obtain rfl : u = [] := hu
      rfl
  obtain ⟨e, rfl, -, -⟩ | ⟨tx, rfl, -, carries⟩ := build_yields hb
  · exact .inl (freed h)
  have sends {u : List Exchange} (h : (submit tx life).Begins u) :
      broadcasts u = [] ∨ ∃ raw, g.Carries target data raw ∧ broadcasts u = [raw] :=
    (submit_begins h).imp_right fun sent => ⟨tx.raw, carries, sent⟩
  obtain h | ⟨u, v, submitted, rfl, hu, h⟩ := begins_monad_bind.1 h
  · exact sends h
  · rw [broadcasts_append, freed h, List.append_nil]
    exact sends hu.begins

/-- At every moment an attempt has broadcast nothing, or one transaction with its call. -/
theorem sendAndConfirm_begins {label : String}
    (h : (g.sendAndConfirm label target data).Begins t) :
    broadcasts t = [] ∨ ∃ raw, g.Carries target data raw ∧ broadcasts t = [raw] := by
  obtain h | ⟨u, v, ⟨sent, life⟩, rfl, hu, h⟩ := begins_monad_bind.1 h
  · exact broadcast_begins h
  have waiting : broadcasts v = [] := by
    cases sent with
    | error e =>
      obtain rfl : v = [] := h
      rfl
    | ok hash =>
      have looks := waitForReceipt_looksUp g hash life
      obtain h | ⟨v, w, ended, rfl, hv, h⟩ := begins_monad_bind.1 h
      · exact broadcasts_of_silent (silent_of_looksUp (looks.question_of_begins h))
      · obtain rfl : w = [] := h
        rw [List.append_nil]
        exact broadcasts_of_silent (silent_of_looksUp (looks.question_of_yields hv))
  rw [broadcasts_append, waiting, List.append_nil]
  exact broadcast_begins hu.begins

/-- An attempt counts as confirmed only when a receipt of success came after its one broadcast. -/
theorem Attempted.settled {hash : Word} (h : Attempted g target data t a)
    (confirmed : a.status = .confirmed hash) :
    ∃ raw, Transaction.hashRaw raw = hash ∧ g.Carries target data raw ∧ broadcasts t = [raw] ∧
      Settled t raw := by
  obtain ⟨⟨receipt, ok⟩, txHash⟩ := TxAttempt.result_of_confirmed confirmed
  obtain ⟨-, none⟩ | ⟨raw, carries, some, one, settled⟩ := h.shows
  · cases none.symm.trans txHash
  · exact ⟨raw, Option.some.inj (some.symm.trans txHash), carries, one, settled receipt ok⟩

end Gateway

/-! ## Reports -/

def Exchange.isReport (a : Authority) (x : Exchange) : Bool :=
  match x.question with
  | .observe (.dispatched b _ _) => a = b
  | _ => false

/-- The report on a batch for the authority. -/
def report (a : Authority) (n : Nat) (status : DispatchStatus) : Exchange :=
  ⟨.observe (.dispatched a n status), ()⟩

theorem isReport_of_sends {P : Bytes → Prop} {x : Exchange} (h : x.question.Sends P)
    (a : Authority) : x.isReport a = false := by
  obtain ⟨question, answer⟩ := x
  unfold Exchange.isReport
  dsimp only at h ⊢
  split
  · cases h
  · rfl

theorem isReport_report (a b : Authority) (n : Nat) (status : DispatchStatus) :
    (report b n status).isReport a = decide (a = b) := rfl

namespace Dispatcher

variable {d : Dispatcher} {plan : Plan} {t : List Exchange}

/-- How far the batch of a plan for one authority has come: an attempt is on its way, or the batch
is done with. -/
def Progress (d : Dispatcher) (plan : Plan) (a : Authority) (t : List Exchange) : Prop :=
  (∃ P : Bytes → Prop, ∀ x ∈ t, x.question.Sends P) ∨ ∃ attempt, Carried d plan a t attempt

/-- How the batch of a plan for one authority stands: nothing was asked for it yet, an attempt to
send it has begun, or it is done with. -/
inductive Stage (d : Dispatcher) (plan : Plan) (a : Authority) : List Exchange → Prop
  | idle : Stage d plan a []
  | begun (target : Address) (t : List Exchange) (h : plan.keys a ≠ [])
      (ht : d.target? a = some target)
      (hb : (d.gateway.sendAndConfirm a.label target (plan.callData a)).Begins t) :
    Stage d plan a t
  | ended (t : List Exchange) (attempt : Option TxAttempt) (h : Carried d plan a t attempt) :
    Stage d plan a t

theorem Stage.congr {plan' : Plan} {a : Authority} (hk : plan'.keys = plan.keys)
    (hc : plan'.callData = plan.callData) (h : Stage d plan' a t) : Stage d plan a t := by
  cases h with
  | idle => exact .idle
  | begun target t h ht hb =>
    rw [hk] at h
    rw [hc] at hb
    exact .begun target t h ht hb
  | ended t attempt h => exact .ended t attempt (h.congr hk hc)

theorem Stage.progress {a : Authority} (h : Stage d plan a t) : Progress d plan a t := by
  cases h with
  | idle => exact .inl ⟨fun _ => True, by simp⟩
  | begun target t h ht hb =>
    have sends := Gateway.sendAndConfirm_sends d.gateway a.label target (plan.callData a)
    exact .inl ⟨_, sends.question_of_begins hb⟩
  | ended t attempt h => exact .inr ⟨attempt, h⟩

theorem sendBatch_begins {a : Authority} {target : Address} (h : plan.keys a ≠ [])
    (ht : d.target? a = some target)
    (hb : (d.sendBatch a target (plan.callData a) (plan.keys a) plan).Begins t) :
    Stage d plan a t := by
  obtain hb | ⟨u, v, attempt, rfl, hu, hb⟩ := begins_monad_bind.1 hb
  · exact .begun target t h ht hb
  · obtain rfl | ⟨⟨⟩, v, rfl, hv⟩ := hb
    · rw [List.append_nil]
      exact .begun target u h ht hu.begins
    · obtain rfl : v = [] := hv
      exact .ended _ _ (.attempted target u attempt h ht (Gateway.sendAndConfirm_attempted hu))

theorem sendRegistrations_begins (h : (d.sendRegistrations plan).Begins t) :
    Stage d plan .registry t := by
  unfold sendRegistrations at h
  cases hb : plan.registryBatch with
  | nil =>
    rw [hb] at h
    obtain rfl : t = [] := h
    exact .idle
  | cons row rows =>
    rw [if_neg (by simp [hb])] at h
    exact sendBatch_begins (by simp [Plan.keys, hb]) rfl h

theorem sendDelegations_begins (h : (d.sendDelegations plan).Begins t) :
    Stage d plan .delegationLedger t := by
  unfold sendDelegations at h
  cases hb : plan.delegationBatch with
  | nil =>
    rw [hb] at h
    obtain rfl : t = [] := h
    exact .idle
  | cons row rows =>
    rw [if_neg (by simp [hb])] at h
    cases hd : d.delegation with
    | none =>
      rw [hd] at h
      obtain rfl : t = [] := h
      exact .idle
    | some ledger =>
      simp only [hd] at h
      have batch {t : List Exchange}
          (h : (d.sendBatch .delegationLedger ledger (plan.callData .delegationLedger)
            (plan.keys .delegationLedger) plan).Begins t) : Stage d plan .delegationLedger t :=
        sendBatch_begins (by simp [Plan.keys, hb]) hd h
      obtain h | ⟨u, v, plan', rfl, hu, rfl⟩ := begins_monad_bind.1 h
      · exact batch h
      · rw [List.append_nil]
        exact batch hu.begins

/-- A plan is underway with its batch for the registry, or behind that with its batch for the
ledger. -/
theorem dispatch_begins (h : (d.dispatch plan).Begins t) :
    Stage d plan .registry t ∨ ∃ u v attempt, t = u ++ v ∧
      Carried d plan .registry u attempt ∧ Stage d plan .delegationLedger v := by
  unfold dispatch at h
  obtain h | ⟨u, v, plan', rfl, hu, h⟩ := begins_monad_bind.1 h
  · exact .inl (sendRegistrations_begins h)
  obtain ⟨attempt, carried, rfl⟩ := sendRegistrations_carried hu
  refine .inr ⟨u, v, attempt, rfl, carried, ?_⟩
  exact (sendDelegations_begins h).congr Plan.keys_record Plan.callData_record

/-! ## What a report is about -/

theorem countP_isReport_of_sends {P : Bytes → Prop} (h : ∀ x ∈ t, x.question.Sends P)
    (a : Authority) : t.countP (·.isReport a) = 0 :=
  List.countP_eq_zero.2 fun x hx => by simp [isReport_of_sends (h x hx) a]

theorem Carried.countP_le {a b : Authority} {attempt : Option TxAttempt}
    (h : Carried d plan b t attempt) : t.countP (·.isReport a) ≤ if a = b then 1 else 0 := by
  cases h with
  | nothing h => exact Nat.zero_le _
  | attempted target t attempt h ht ha =>
    have one : (report b (plan.keys b).length attempt.status).isReport a = decide (a = b) := rfl
    rw [List.countP_append, countP_isReport_of_sends ha.sends, Nat.zero_add, ← report,
      List.countP_singleton, one]
    by_cases same : a = b <;> simp [same]

theorem Progress.countP_le {a b : Authority} (h : Progress d plan b t) :
    t.countP (·.isReport a) ≤ if a = b then 1 else 0 := by
  obtain ⟨P, sends⟩ | ⟨attempt, carried⟩ := h
  · rw [countP_isReport_of_sends sends]
    exact Nat.zero_le _
  · exact carried.countP_le

/-- A plan makes at most one report for each authority. -/
theorem dispatch_countP_le (h : (d.dispatch plan).Begins t) (a : Authority) :
    t.countP (·.isReport a) ≤ 1 := by
  obtain h | ⟨u, v, attempt, rfl, hu, hv⟩ := dispatch_begins h
  · have most := h.progress.countP_le (a := a)
    split at most <;> omega
  · have first := hu.countP_le (a := a)
    have second := hv.progress.countP_le (a := a)
    have both : ((if a = .registry then 1 else 0) + if a = .delegationLedger then 1 else 0) = 1 := by
      cases a <;> rfl
    rw [List.countP_append]
    omega

/-- The batch that a report of success is about: its one transaction was the last to be broadcast,
and a receipt of success came for it. -/
def Vouched (d : Dispatcher) (plan : Plan) (a : Authority) (n : Nat) (hash : Word)
    (t : List Exchange) : Prop :=
  ∃ target raw, d.target? a = some target ∧ d.gateway.Carries target (plan.callData a) raw ∧
    n = (plan.keys a).length ∧ Transaction.hashRaw raw = hash ∧
    (broadcasts t).getLast? = some raw ∧ Settled t raw

theorem Vouched.prepend {a : Authority} {n : Nat} {hash : Word} (h : Vouched d plan a n hash t)
    (u : List Exchange) : Vouched d plan a n hash (u ++ t) := by
  obtain ⟨target, raw, ht, carries, hn, hraw, last, settled⟩ := h
  refine ⟨target, raw, ht, carries, hn, hraw, ?_, settled.mono (List.suffix_append ..).isInfix⟩
  rw [broadcasts_append, List.getLast?_append, last, Option.some_or]

theorem Carried.vouched {a b : Authority} {n : Nat} {hash : Word} {attempt : Option TxAttempt}
    (h : Carried d plan b (t ++ [report a n (.confirmed hash)]) attempt) :
    Vouched d plan a n hash t := by
  generalize hs : t ++ [report a n (.confirmed hash)] = s at h
  cases h with
  | nothing h => exact absurd hs (by simp)
  | attempted target u attempt h ht ha =>
    obtain ⟨rfl, same⟩ := List.append_inj' hs rfl
    obtain ⟨rfl, rfl, confirmed⟩ : a = b ∧ n = (plan.keys b).length ∧
        .confirmed hash = attempt.status := by simpa [report] using same
    obtain ⟨raw, hraw, carries, one, settled⟩ := ha.settled confirmed.symm
    exact ⟨target, raw, ht, carries, rfl, hraw, by rw [one]; rfl, settled⟩

theorem Progress.vouched {a b : Authority} {n : Nat} {hash : Word}
    (h : Progress d plan b (t ++ [report a n (.confirmed hash)])) : Vouched d plan a n hash t := by
  obtain ⟨P, sends⟩ | ⟨attempt, carried⟩ := h
  · have last : (report a n (.confirmed hash)).isReport a = false :=
      isReport_of_sends (sends _ (by simp)) a
    rw [isReport_report, decide_eq_true rfl] at last
    cases last
  · exact carried.vouched

/-- A report of success closes a batch of the plan. -/
theorem dispatch_vouched {a : Authority} {n : Nat} {hash : Word}
    (h : (d.dispatch plan).Begins (t ++ [report a n (.confirmed hash)])) :
    Vouched d plan a n hash t := by
  obtain h | ⟨u, v, attempt, ht, hu, hv⟩ := dispatch_begins h
  · exact h.progress.vouched
  obtain rfl | ⟨v, x, rfl⟩ := List.eq_nil_or_concat v
  · rw [List.append_nil] at ht
    rw [← ht] at hu
    exact hu.vouched
  · rw [List.concat_eq_append, ← List.append_assoc] at ht
    obtain ⟨rfl, same⟩ := List.append_inj' ht rfl
    rw [List.concat_eq_append, ← same] at hv
    exact hv.progress.vouched.prepend u

end Dispatcher

/-! ## Where the last exchange stands -/

namespace Engine

variable {e : Engine} {exclusions : ExclusionTable} {t : List Exchange} {x : Exchange}

theorem ChunkRun.sending_concat (run : ChunkRun e exclusions) (h : run.exchanges = t ++ [x])
    (loud : ¬x.question.Calm) : ∃ sent, t = run.opening ++ sent ∧ run.sending = sent ++ [x] := by
  have inside : x ∈ run.sending := run.mem_sending (by rw [h]; simp) loud
  rw [run.exchanges_eq] at h
  obtain none | ⟨sent, y, hs⟩ := List.eq_nil_or_concat run.sending
  · rw [none] at inside
    cases inside
  · rw [hs, List.concat_eq_append, ← List.append_assoc] at h
    obtain ⟨rfl, same⟩ := List.append_inj' h rfl
    exact ⟨sent, rfl, by rw [hs, List.concat_eq_append, same]⟩

theorem processChunks_begins_concat {chunks : List (List SignedRegistration)}
    (h : (e.processChunks exclusions chunks).Begins (t ++ [x])) (loud : ¬x.question.Calm) :
    ∃ (run : ChunkRun e exclusions) (before sent : List Exchange), run.chunk ∈ chunks ∧
      t = before ++ (run.opening ++ sent) ∧ run.sending = sent ++ [x] := by
  induction chunks generalizing t with
  | nil => exact absurd h (by simp [processChunks])
  | cons chunk rest ih =>
    rw [processChunks] at h
    obtain h | ⟨u, v, answer, rfl, hu, h⟩ := begins_bind_concat h
    · obtain preliminary | ⟨run, rfl, exchanges⟩ := processChunk_begins h
      · exact absurd (Ask.calm_of_preliminary (preliminary x (by simp))) loud
      · obtain ⟨sent, rfl, sending⟩ := run.sending_concat exchanges loud
        exact ⟨run, [], sent, List.mem_cons_self, rfl, sending⟩
    cases answer with
    | error err => exact absurd h (by simp [Pure.pure])
    | ok results =>
    obtain h | ⟨v, w, answer, rfl, hv, h⟩ := begins_bind_concat h
    · obtain ⟨run, before, sent, hchunk, rfl, sending⟩ := ih h
      exact ⟨run, u ++ before, sent, List.mem_cons_of_mem _ hchunk, by simp, sending⟩
    · cases answer <;> exact absurd h (by simp [Pure.pure])

/-- Whatever a call broadcasts or reports last is asked for while a chunk is sent that was read,
prepared and planned right before. -/
theorem processRegistrations_begins_concat {intents : List SignedRegistration}
    (h : (e.processRegistrations intents).Begins (t ++ [x])) (loud : ¬x.question.Calm) :
    ∃ (exclusions : ExclusionTable) (run : ChunkRun e exclusions) (before sent : List Exchange),
      ⟨.exclusions, exclusions⟩ ∈ before ∧ run.chunk ∈ e.chunksOf intents ∧
      t = before ++ (run.opening ++ sent) ∧ run.sending = sent ++ [x] := by
  have calm {q : Ask} (hq : x.question = q) (h : q.Calm) : False := loud (hq ▸ h)
  unfold processRegistrations at h
  split at h
  · exact absurd h (by simp)
  obtain h | ⟨u, t, ⟨⟩, rfl, -, h₁⟩ := begins_bind_concat h
  · exact (calm (begins_request_concat h) ⟨nofun, nofun⟩).elim
  obtain h | ⟨v, t, exclusions, rfl, hv, h₂⟩ := begins_bind_concat h₁
  · exact (calm (begins_request_concat h) ⟨nofun, nofun⟩).elim
  obtain h | ⟨w, t, results, rfl, -, h₃⟩ := begins_bind_concat h₂
  · obtain ⟨run, before, sent, hchunk, rfl, sending⟩ := processChunks_begins_concat h loud
    refine ⟨exclusions, run, u ++ v ++ before, sent, ?_, hchunk, by simp, sending⟩
    simp [yields_request.1 hv]
  obtain h | ⟨w', t, ⟨⟩, rfl, -, h₄⟩ := begins_bind_concat h₃
  · exact (calm (begins_request_concat h) ⟨nofun, nofun⟩).elim
  · exact absurd h₄ (by simp [Pure.pure])

end Engine

end Registrar
