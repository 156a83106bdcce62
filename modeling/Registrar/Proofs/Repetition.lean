import Registrar.Proofs.Interleaving
import Registrar.Proofs.SettlingNode
import Registrar.Proofs.Soundness

/-! What is confirmed is not done again: over all calls to one engine, whichever way they are
interleaved, no identity stands in two transactions for one authority that were both reported as
confirmed. -/
namespace Registrar
set_option autoImplicit false

open Program

/-! ## Calls are sessions -/

theorem Ask.keepsSession_of_preliminary {q : Ask} (h : q.preliminary = true) : q.KeepsSession := by
  constructor <;>
  · rintro rfl
    cases h

theorem Ask.Sends.keepsSession {P : Bytes → Prop} {q : Ask} (h : q.Sends P) : q.KeepsSession := by
  constructor <;>
  · rintro rfl
    cases h

theorem Dispatcher.dispatch_keepsSession (d : Dispatcher) (plan : Plan) :
    (d.dispatch plan).Asks Ask.KeepsSession := by
  refine (dispatch_asks d plan).imp fun q asking => ?_
  obtain sends | ⟨a, n, status, rfl⟩ := asking
  · exact sends.keepsSession
  · exact ⟨nofun, nofun⟩

namespace Engine

variable {e : Engine} {exclusions : ExclusionTable}

theorem processChunk_keepsSession (e : Engine) (exclusions : ExclusionTable)
    (chunk : List SignedRegistration) :
    (e.processChunk exclusions chunk).Asks Ask.KeepsSession := by
  have keeps {q : Ask} (h : q.preliminary = true) : q.KeepsSession :=
    Ask.keepsSession_of_preliminary h
  refine processChunk_asks ((readStatuses_preliminary e _).imp fun _ => keeps)
    (fun statuses => ?_) (fun statuses prepared => ?_)
    (Dispatcher.dispatch_keepsSession e.dispatcher)
  · exact (prepare_preliminary e exclusions statuses chunk).imp fun _ => keeps
  · exact (reconcile_preliminary e.reconciler exclusions statuses prepared).imp fun _ => keeps

theorem processRegistrations_sessioned (e : Engine) (intents : List SignedRegistration) :
    (e.processRegistrations intents).Sessioned := by
  unfold processRegistrations
  split
  · trivial
  refine ⟨rfl, fun _ => ⟨nofun, nofun, fun _ exclusions => ?_⟩⟩
  change (e.processChunks exclusions _ >>= _).InSession
  exact InSession.bind (processChunks_asks (processChunk_keepsSession e exclusions))
    inSession_release

/-! ## What lasts -/

/-- What the node owes the engine over the exchanges. Aggregates show what the authorities hold; from
a receipt of success on, the rows of its transaction are registered, or held by the engine's account;
and no identity becomes unregistered again. No transaction is longer than a length can tell. -/
structure Lasting (e : Engine) (reader : StatusReader) (content : List Exchange → Holdings)
    (t : List Exchange) : Prop where
  short : ∀ raw ∈ broadcasts t, raw.length < 2 ^ 64
  mirrors : reader.Mirrors content t
  takes : ∀ u x raw, u ++ [x] <+: t → raw ∈ broadcasts u → x.Confirms raw →
    (∀ k ∈ e.rowKeys raw .registry,
      ((content (u ++ [x])).status .registry k).isUnregistered = false) ∧
    ∀ k ∈ e.rowKeys raw .delegationLedger,
      ((content (u ++ [x])).ledger k).representative = e.signer
  lasts : ∀ u x a k, u ++ [x] <+: t → ((content u).status a k).isUnregistered = false →
    ((content (u ++ [x])).status a k).isUnregistered = false

namespace Lasting

variable {reader : StatusReader} {content : List Exchange → Holdings} {t : List Exchange}
  {a : Authority} {k : PublicKey}

theorem known_append (h : e.Lasting reader content t) {u v : List Exchange} (inside : u ++ v <+: t)
    (known : ((content u).status a k).isUnregistered = false) :
    ((content (u ++ v)).status a k).isUnregistered = false := by
  induction v using List.reverseRecOn with
  | nil => rwa [List.append_nil]
  | append_singleton v x ih =>
    rw [← List.append_assoc] at inside ⊢
    exact h.lasts _ x a k inside (ih ((List.prefix_append ..).trans inside))

/-- Whoever stands in a transaction that succeeded is known from then on. -/
theorem known_of_settled (h : e.Lasting reader content t) (signer : e.signer.isZero = false)
    {u v : List Exchange} {raw : Bytes} (inside : u ++ v <+: t) (settled : Settled u raw)
    (hk : k ∈ e.rowKeys raw a) : ((content (u ++ v)).status a k).isUnregistered = false := by
  obtain ⟨w, x, rest, rfl, sent, confirms⟩ := settled
  have split : w ++ x :: rest ++ v = w ++ [x] ++ (rest ++ v) := by simp
  rw [split] at inside ⊢
  refine h.known_append inside ?_
  obtain ⟨registered, held⟩ := h.takes w x raw ((List.prefix_append ..).trans inside) sent confirms
  cases a with
  | registry => exact registered k hk
  | delegationLedger =>
    have representative := held k hk
    rw [Holdings.status, AuthorityStatus.isUnregistered, representative]
    exact StatusKind.isUnregistered_ofLedger signer _

end Lasting

/-- A node that applies what it confirms shows lasting records. -/
theorem Applying.lasting {reader : StatusReader} {initial : Holdings}
    {applied : List Exchange → List Bytes} {t : List Exchange}
    (h : e.Applying reader initial applied t) (signer : e.signer.isZero = false)
    (short : ∀ raw ∈ broadcasts t, raw.length < 2 ^ 64) :
    e.Lasting reader (fun u => e.settleAll initial (applied u)) t where
  short := short
  mirrors := h.mirrors
  takes u x raw inside sent confirms := by
    have done := h.confirmed u x raw inside sent confirms
    refine ⟨fun k hk => known_settleAll signer (.inr ⟨raw, done, hk⟩), fun k hk => ?_⟩
    obtain ⟨row, hrow, rfl⟩ := List.mem_map.1 hk
    obtain ⟨others, -⟩ | ⟨last, -, -, held⟩ :=
      e.settleAll_ledger_cases initial (applied (u ++ [x])) row.pubkey
    · exact absurd rfl (others row (List.mem_flatMap.2 ⟨raw, done, hrow⟩))
    · rw [held]
  lasts u x a k inside known := by
    obtain ⟨rest, grown⟩ := h.grows u x inside
    rw [← grown, settleAll_append]
    exact known_settleAll signer (.inl known)

/-! ## Reports of one run -/

/-- Whoever stands in a batch was not known to its authority while the chunk was read. -/
theorem ChunkRun.unknown (run : ChunkRun e exclusions) {reader : StatusReader}
    (through : e.ReadsThrough reader) {content : List Exchange → Holdings}
    {before behind : List Exchange}
    (mirrors : reader.Mirrors content (before ++ run.reading ++ behind)) {a : Authority}
    {k : PublicKey} (hk : k ∈ run.plan.keys a) :
    ∃ u, u <+: run.reading ∧ ((content (before ++ u)).status a k).isUnregistered = true := by
  obtain ⟨registry, delegation⟩ :=
    readStatuses_told through run.reads (run.keys_subset a hk)
  cases a with
  | registry =>
    obtain ⟨row, hrow, rfl⟩ := List.mem_map.1 hk
    obtain ⟨u, hu, same⟩ := mirrors.status_eq registry
    exact ⟨u, hu, same ▸ (run.registrable row hrow).unregistered⟩
  | delegationLedger =>
    obtain ⟨row, hrow, rfl⟩ := List.mem_map.1 hk
    obtain ⟨ledger, hledger, undelegated⟩ := (run.delegable row hrow).undelegated
    obtain ⟨u, hu, same⟩ := mirrors.status_eq (delegation ledger hledger)
    exact ⟨u, hu, same ▸ undelegated⟩

/-- A report of success stands behind what was read, prepared and planned for its batch, and behind
the one transaction that it is about. -/
theorem processRegistrations_vouched {intents : List SignedRegistration} {t : List Exchange}
    {a : Authority} {n : Nat} {hash : Word}
    (h : (e.processRegistrations intents).Begins (t ++ [report a n (.confirmed hash)])) :
    ∃ (exclusions : ExclusionTable) (run : ChunkRun e exclusions) (before sent : List Exchange),
      t = before ++ (run.opening ++ sent) ∧
      run.sending = sent ++ [report a n (.confirmed hash)] ∧
      Dispatcher.Vouched e.dispatcher run.plan a n hash sent := by
  have loud : ¬(report a n (.confirmed hash)).question.Calm :=
    fun calm => calm.2 a n (.confirmed hash) rfl
  obtain ⟨exclusions, run, before, sent, -, -, ht, sending⟩ :=
    processRegistrations_begins_concat h loud
  refine ⟨exclusions, run, before, sent, ht, sending, ?_⟩
  exact Dispatcher.dispatch_vouched (sending ▸ run.sends)

theorem FinishedRun.vouched (run : FinishedRun e exclusions)
    (nodup : (run.chunk.map (·.pubkey)).Nodup) {r : ReconciliationResult}
    (hr : r ∈ run.final.results) {a : Authority} {hash : Word}
    (confirmed : r.status a = .confirmed hash) :
    ∃ n sent, sent ++ [report a n (.confirmed hash)] <:+: run.exchanges ∧
      Dispatcher.Vouched e.dispatcher run.plan a n hash sent ∧ r.pubkey ∈ run.plan.keys a := by
  obtain ⟨part, attempt, sending, carried, sound⟩ := run.sound nodup
  have inside := run.part_infix sending a
  have hk : r.pubkey ∈ run.plan.keys a :=
    ((sound r hr).attempted a).1 (by rw [confirmed]; rfl)
  obtain ⟨sent, hsent, status⟩ := (sound r hr).outcome a hk
  have carries := carried a
  rw [hsent] at carries
  obtain ⟨n, t, same⟩ : ∃ n t, part a = t ++ [report a n (.confirmed hash)] := by
    generalize part a = exchanges at carries
    cases carries with
    | attempted target t sent h ht ha =>
      exact ⟨_, t, by rw [← status.symm.trans confirmed, report]⟩
  rw [same] at carries inside
  exact ⟨n, t, inside, carries.vouched, hk⟩

/-- Until the report on a batch for an authority, the chunk has made none for it. -/
theorem ChunkRun.unreported (run : ChunkRun e exclusions) {a : Authority} {n : Nat}
    {status : DispatchStatus} {sent : List Exchange}
    (sending : run.sending = sent ++ [report a n status]) :
    ∀ x ∈ run.opening ++ sent, x.isReport a = false := by
  refine List.forall_mem_append.2 ⟨fun x hx => ?_, fun x hx => ?_⟩
  · have calm := run.opening_calm x hx
    unfold Exchange.isReport
    split
    · rename_i b n status hq
      exact absurd hq (calm.2 b n status)
    · rfl
  · have most := Dispatcher.dispatch_countP_le (sending ▸ run.sends) a
    rw [List.countP_append, List.countP_singleton, isReport_report, decide_eq_true rfl,
      if_pos rfl] at most
    have none : sent.countP (·.isReport a) = 0 := by omega
    exact Bool.eq_false_iff.2 (List.countP_eq_zero.1 none x hx)

/-! ## Confirmed transactions -/

theorem prefix_of_concat_prefix_append {α : Type} {l l₁ l₂ : List α} {x : α}
    (h : l ++ [x] <+: l₁ ++ l₂) (hx : x ∉ l₂) : l ++ [x] <+: l₁ := by
  obtain inside | beyond := List.prefix_or_prefix_of_prefix h (List.prefix_append l₁ l₂)
  · exact inside
  obtain ⟨rest, split⟩ := beyond
  obtain rfl | ⟨rest, y, rfl⟩ := List.eq_nil_or_concat rest
  · rw [List.append_nil] at split
    rw [split]
  · rw [List.concat_eq_append, ← List.append_assoc] at split
    obtain ⟨rfl, same⟩ := List.append_inj' split rfl
    obtain rfl := List.singleton_inj.1 same
    rw [List.append_assoc, List.prefix_append_right_inj] at h
    exact absurd (h.subset (List.mem_append_right _ (List.mem_singleton_self _))) hx

/-- In the exchanges `t`, the one behind `u` reports that the batch for the authority is confirmed,
and the transaction `raw` that carried it was the last to be broadcast. -/
structure Confirmed (e : Engine) (t u : List Exchange) (a : Authority) (raw : Bytes) : Prop where
  reported : u ++ [report a (e.rowKeys raw a).length (.confirmed (Transaction.hashRaw raw))] <+: t
  sent : (broadcasts u).getLast? = some raw

section

variable {reader : StatusReader} {content : List Exchange → Holdings} {t u : List Exchange}
  {a : Authority} {n : Nat} {hash : Word}

/-- Whatever vouches for a report tells its transaction, whose rows are the batch. -/
theorem Lasting.confirmed (h : e.Lasting reader content t) {plan : Plan}
    (reported : u ++ [report a n (.confirmed hash)] <+: t)
    (vouched : Dispatcher.Vouched e.dispatcher plan a n hash u) :
    ∃ raw, Transaction.hashRaw raw = hash ∧ (e.rowKeys raw a).length = n ∧
      e.Confirmed t u a raw ∧ Settled u raw ∧ e.rowKeys raw a = plan.keys a := by
  obtain ⟨target, raw, ht, carries, rfl, rfl, last, settled⟩ := vouched
  have inside : broadcasts u <+: broadcasts t := by
    obtain ⟨rest, rfl⟩ := (List.prefix_append ..).trans reported
    rw [broadcasts_append]
    exact List.prefix_append ..
  have short := h.short raw (inside.subset (List.mem_of_getLast? last))
  have rows := rowKeys_of_carries ht carries short
  refine ⟨raw, rfl, congrArg List.length rows, ⟨?_, last⟩, settled, rows⟩
  rw [rows]
  exact reported

variable {ι : Type} {intents : ι → List SignedRegistration}
  {s : Calls ι (Except Error (List ReconciliationResult))}

theorem Lasting.confirmed_of_report (h : e.Lasting reader content s.trace)
    (serial : Calls.Serial (fun i => e.processRegistrations (intents i)) s)
    (reported : u ++ [report a n (.confirmed hash)] <+: s.trace) :
    ∃ raw, Transaction.hashRaw raw = hash ∧ (e.rowKeys raw a).length = n ∧
      e.Confirmed s.trace u a raw ∧ Settled u raw ∧
      ∃ (exclusions : ExclusionTable) (run : ChunkRun e exclusions) (before sent : List Exchange),
        u = before ++ (run.opening ++ sent) ∧
        run.sending = sent ++ [report a n (.confirmed hash)] ∧
        e.rowKeys raw a = run.plan.keys a := by
  obtain ⟨i, before, own, rfl, begins⟩ := serial.located u _ reported
  obtain ⟨exclusions, run, earlier, sent, rfl, sending, vouched⟩ :=
    processRegistrations_vouched begins
  have split : before ++ (earlier ++ (run.opening ++ sent)) =
      before ++ earlier ++ run.opening ++ sent := by simp
  rw [split] at reported ⊢
  obtain ⟨raw, hraw, rows, confirmed, settled, keys⟩ :=
    h.confirmed reported (vouched.prepend (before ++ earlier ++ run.opening))
  exact ⟨raw, hraw, rows, confirmed, settled, exclusions, run, before ++ earlier, sent, by simp,
    sending, keys⟩

/-- What was confirmed before a report of success on another batch is not in that batch. -/
theorem Lasting.disjoint (h : e.Lasting reader content s.trace) (through : e.ReadsThrough reader)
    (signer : e.signer.isZero = false)
    (serial : Calls.Serial (fun i => e.processRegistrations (intents i)) s)
    {u₁ u₂ : List Exchange} {raw₁ raw₂ : Bytes} (first : e.Confirmed s.trace u₁ a raw₁)
    (second : e.Confirmed s.trace u₂ a raw₂) (shorter : u₁.length < u₂.length) :
    (e.rowKeys raw₁ a).Disjoint (e.rowKeys raw₂ a) := by
  obtain ⟨raw, -, -, same, settled, -⟩ := h.confirmed_of_report serial first.reported
  obtain rfl : raw = raw₁ := Option.some.inj (same.sent.symm.trans first.sent)
  obtain ⟨raw', -, -, same', -, exclusions, run, before, sent, rfl, sending, keys⟩ :=
    h.confirmed_of_report serial second.reported
  obtain rfl : raw' = raw₂ := Option.some.inj (same'.sent.symm.trans second.sent)
  -- the second chunk makes one report for the authority, so the first report stands before it
  have earlier : u₁ ++ [report a (e.rowKeys raw a).length
      (.confirmed (Transaction.hashRaw raw))] <+: before := by
    refine prefix_of_concat_prefix_append (List.prefix_of_prefix_length_le first.reported
      ((List.prefix_append ..).trans second.reported) ?_) fun inside => ?_
    · rw [List.length_append, List.length_singleton]
      exact shorter
    · have unreported := run.unreported sending _ inside
      rw [isReport_report, decide_eq_true rfl] at unreported
      cases unreported
  obtain ⟨between, rfl⟩ := (List.prefix_append ..).trans earlier
  obtain ⟨rest, trace⟩ := second.reported
  intro k hk₁ hk₂
  rw [keys] at hk₂
  have mirrors := h.mirrors
  have split : s.trace = u₁ ++ between ++ run.reading ++
      (run.preparing ++ run.planning ++ sent ++
        report a (e.rowKeys raw' a).length (.confirmed (Transaction.hashRaw raw')) :: rest) := by
    simp [← trace, ChunkRun.opening]
  rw [split] at mirrors
  obtain ⟨u, hu, unknown⟩ := run.unknown through mirrors hk₂
  have inside : u₁ ++ (between ++ u) <+: s.trace := by
    rw [split, ← List.append_assoc]
    exact ((List.prefix_append_right_inj _).2 hu).trans (List.prefix_append ..)
  have known := h.known_of_settled signer inside settled hk₁
  rw [← List.append_assoc] at known
  cases unknown.symm.trans known

/-- What a call that has ended tells to be confirmed was reported so. -/
theorem Lasting.confirmed_of_result (h : e.Lasting reader content s.trace)
    (serial : Calls.Serial (fun i => e.processRegistrations (intents i)) s) {i : ι}
    {results : List ReconciliationResult} (ended : s.left i = .done (.ok results))
    {r : ReconciliationResult} (hr : r ∈ results) (confirmed : r.status a = .confirmed hash) :
    ∃ u raw, Transaction.hashRaw raw = hash ∧ e.Confirmed s.trace u a raw ∧
      r.pubkey ∈ e.rowKeys raw a := by
  obtain ⟨own, inside, yields⟩ := serial.finished i _ ended
  obtain ⟨-, -, rfl⟩ | ⟨exclusions, runs, hruns, rfl, rfl⟩ := processRegistrations_yields yields
  · exact absurd hr List.not_mem_nil
  obtain ⟨run, hrun, hr⟩ := List.mem_flatMap.1 hr
  have nodup := nodup_of_mem_chunksOf (hruns ▸ List.mem_map_of_mem hrun)
  obtain ⟨n, sent, reported, vouched, hk⟩ := run.vouched nodup hr confirmed
  have part : run.exchanges <:+: runs.flatMap (·.exchanges) :=
    List.infix_of_mem_flatten (List.mem_map_of_mem hrun)
  have whole := part.trans ⟨[⟨.acquire .session, ()⟩, ⟨.exclusions, exclusions⟩],
    [⟨.release .session, ()⟩], rfl⟩
  obtain ⟨before, behind, trace⟩ := (reported.trans whole).trans inside
  have located : before ++ sent ++ [report a n (.confirmed hash)] <+: s.trace :=
    ⟨behind, by rw [← trace]; simp⟩
  obtain ⟨raw, hraw, -, confirmed, -, keys⟩ := h.confirmed located (vouched.prepend before)
  exact ⟨_, raw, hraw, confirmed, keys ▸ hk⟩

variable [DecidableEq ι]

/-- However calls for registrations are interleaved, dropped, answered and refused, and whatever
exclusions they read, as long as the node shows lasting records: every report of success is about
the rows of one transaction. Transactions of different reports on one authority have no identity in
common. And results tell that an identity is confirmed only for one of the reported transactions, in
which it stands. -/
theorem reached_confirmed_disjoint (through : e.ReadsThrough reader)
    (signer : e.signer.isZero = false)
    (reached : Calls.Reached (fun i => e.processRegistrations (intents i)) s)
    (lasting : e.Lasting reader content s.trace) :
    (∀ u a n hash, u ++ [report a n (.confirmed hash)] <+: s.trace →
      ∃ raw, Transaction.hashRaw raw = hash ∧ (e.rowKeys raw a).length = n ∧
        e.Confirmed s.trace u a raw) ∧
    (∀ a u₁ u₂ raw₁ raw₂, e.Confirmed s.trace u₁ a raw₁ → e.Confirmed s.trace u₂ a raw₂ →
      u₁ ≠ u₂ → (e.rowKeys raw₁ a).Disjoint (e.rowKeys raw₂ a)) ∧
    ∀ i results, s.left i = .done (.ok results) → ∀ r ∈ results, ∀ a hash,
      r.status a = .confirmed hash →
        ∃ u raw, Transaction.hashRaw raw = hash ∧ e.Confirmed s.trace u a raw ∧
          r.pubkey ∈ e.rowKeys raw a := by
  have serial := reached.serial fun i => processRegistrations_sessioned e (intents i)
  refine ⟨fun u a n hash reported => ?_, fun a u₁ u₂ raw₁ raw₂ first second distinct => ?_, ?_⟩
  · obtain ⟨raw, hraw, rows, confirmed, -⟩ := lasting.confirmed_of_report serial reported
    exact ⟨raw, hraw, rows, confirmed⟩
  · obtain shorter | same | longer := Nat.lt_trichotomy u₁.length u₂.length
    · exact lasting.disjoint through signer serial first second shorter
    · have one := List.prefix_of_prefix_length_le ((List.prefix_append ..).trans first.reported)
        ((List.prefix_append ..).trans second.reported) same.le
      exact absurd (one.eq_of_length same) distinct
    · exact fun k hk₁ hk₂ => lasting.disjoint through signer serial second first longer hk₂ hk₁
  · intro i results ended r hr a hash confirmed
    exact lasting.confirmed_of_result serial ended hr confirmed

/-- Of two sample calls one is made while the other waits, and its transaction is confirmed. -/
theorem reached_confirmed_disjoint_sample :
    ∃ (s : Calls Bool (Except Error (List ReconciliationResult))) (raw : Bytes),
      Calls.Reached (fun _ => settledEngine.processRegistrations [sampleIntent 0]) s ∧
      settledEngine.Lasting settledReader (fun u => settledEngine.settleAll blank (broadcasts u))
        s.trace ∧
      (∃ u, u ++ [report .registry 1 (.confirmed (Transaction.hashRaw raw))] <+: s.trace ∧
        settledEngine.Confirmed s.trace u .registry raw) ∧
      ∀ a u₁ u₂ raw₁ raw₂, settledEngine.Confirmed s.trace u₁ a raw₁ →
        settledEngine.Confirmed s.trace u₂ a raw₂ → u₁ ≠ u₂ →
          (settledEngine.rowKeys raw₁ a).Disjoint (settledEngine.rowKeys raw₂ a) := by
  obtain ⟨reply, raw, short, answered, yields, -⟩ := run_settledEngine
  have orderly : Calls.Orderly true (fun _ => none) (sampleTrace reply raw) :=
    ⟨rfl, rfl, rfl, rfl, trivial⟩
  have start : Calls.Reached (fun _ : Bool => settledEngine.processRegistrations [sampleIntent 0])
      (Calls.start _) := .refl
  obtain ⟨s, reached, -, trace⟩ := start.alone (i := true) yields orderly
  have whole : s.trace = sampleTrace reply raw := trace
  have sent : ∀ other ∈ broadcasts (sampleTrace reply raw), other.length < 2 ^ 64 :=
    List.forall_mem_singleton.2 short
  have lasting := (applying_settlingNode answered settledReader).lasting isZero_signer_settledEngine
    sent
  rw [← whole] at lasting
  obtain ⟨told, disjoint, -⟩ := reached_confirmed_disjoint readsThrough_settledReader
    isZero_signer_settledEngine reached lasting
  have reported : (sampleTrace reply raw).take 13 ++
      [report .registry 1 (.confirmed (Transaction.hashRaw raw))] <+: s.trace :=
    ⟨[⟨.release .session, ()⟩], whole.symm⟩
  obtain ⟨other, -, -, confirmed⟩ := told _ _ _ _ reported
  obtain rfl : raw = other := Option.some.inj confirmed.sent
  exact ⟨s, raw, reached, lasting, ⟨_, reported, confirmed⟩, disjoint⟩

end

end Engine

end Registrar
