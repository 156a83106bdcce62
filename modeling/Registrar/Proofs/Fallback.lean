import Registrar.Proofs.Repetition
import Registrar.Proofs.SettlingNode

/-! Look-ups that fail on their own. Such a look-up reads as unregistered, so the account keeps to
what the registry holds of an identity exactly as far as the look-up of that identity is answered. -/
namespace Registrar
set_option autoImplicit false

open Program Contract

/-! ## Look-ups that fail -/

/-- The look-up reverts, or what it returns cannot be read. -/
def Contract.Multicall.Answer.Fails (a : Authority) (answer : Multicall.Answer) : Prop :=
  answer.success = false ∨ ∃ err, decodeStatus a answer.data = .error err

theorem statusOfAnswer_of_fails {a : Authority} {answer : Multicall.Answer}
    (h : answer.Fails a) : statusOfAnswer a answer = .unregistered := by
  unfold statusOfAnswer
  obtain reverted | ⟨err, unreadable⟩ := h
  · rw [reverted, if_neg Bool.false_ne_true]
  · rw [unreadable, ite_self]

namespace StatusReader

/-- In the exchanges, an aggregate of the reader is answered but its look-up of the identity fails. -/
def Misses (reader : StatusReader) (a : Authority) (t : List Exchange) (k : PublicKey) : Prop :=
  ∃ (target : Address) (u : List Exchange) (read : AggregateRead) (v : List Exchange)
    (answers : List Multicall.Answer) (answer : Multicall.Answer),
    reader.target a = .ok target ∧
      t = u ++ read.exchange reader.gateway.settings.multicall target a :: v ∧
      read.outcome = .ok answers ∧ (k, answer) ∈ read.keys.zip answers ∧ answer.Fails a

/-- In every aggregate that the node answers, each look-up fails or shows what the authorities hold
at that moment. -/
def Reflects (reader : StatusReader) (content : List Exchange → Holdings) (t : List Exchange) :
    Prop :=
  ∀ (a : Authority) (target : Address) (u : List Exchange) (read : AggregateRead)
    (v : List Exchange) (answers : List Multicall.Answer),
    reader.target a = .ok target →
    t = u ++ read.exchange reader.gateway.settings.multicall target a :: v →
    read.outcome = .ok answers →
    List.Forall₂ (fun k answer => answer.Fails a ∨ (content u).Shows a k answer) read.keys answers

variable {reader : StatusReader} {content : List Exchange → Holdings} {a : Authority}
  {k : PublicKey} {status : AuthorityStatus} {t : List Exchange}

theorem Mirrors.reflects (h : reader.Mirrors content t) : reader.Reflects content t := by
  intro a target u read v answers htarget split outcome
  exact (h a target u read v answers htarget split outcome).imp fun _ _ shown => .inr shown

/-- What is told of an identity was held at some moment, unless its look-up failed. -/
theorem Reflects.misses_or_eq {before behind : List Exchange}
    (reflects : reader.Reflects content (before ++ t ++ behind)) (told : reader.Told a t k status) :
    reader.Misses a t k ∨ ∃ u, u <+: t ∧ status = (content (before ++ u)).status a k := by
  obtain ⟨target, u, read, v, htarget, rfl, answers, answer, outcome, hk, rfl⟩ := told
  have answered :=
    reflects a target (before ++ u) read (v ++ behind) answers htarget (by simp) outcome
  obtain failed | shown := List.forall₂_zip answered hk
  · exact .inl ⟨target, u, read, v, answers, answer, htarget, rfl, outcome, hk, failed⟩
  · exact .inr ⟨u, List.prefix_append .., shown.statusOfAnswer_eq⟩

end StatusReader

/-! ## What an account may act on -/

/-- What the registry holds of the identity leaves it to the account: it may enter at the registry
whom that does not know, and delegate whom nobody else represents. -/
def Holdings.Permits (c : Holdings) (account : Address) : Authority → PublicKey → Prop
  | .registry, k => (c.status .registry k).isUnregistered = true
  | .delegationLedger, k =>
    (c.status .registry k).isUnregistered = true ∨
      (c.status .registry k).representative = account

namespace Engine

variable {e : Engine} {reader : StatusReader} {exclusions : ExclusionTable}
  {content : List Exchange → Holdings}

theorem ChunkRun.permitted (run : ChunkRun e exclusions) (through : e.ReadsThrough reader)
    {before behind : List Exchange}
    (reflects : reader.Reflects content (before ++ run.reading ++ behind)) {a : Authority}
    {k : PublicKey} (hk : k ∈ run.plan.keys a) :
    reader.Misses .registry run.reading k ∨
      ∃ u, u <+: run.reading ∧ (content (before ++ u)).Permits e.signer a k := by
  have told := (readStatuses_told through run.reads (run.keys_subset a hk)).1
  obtain misses | ⟨u, hu, same⟩ := reflects.misses_or_eq told
  · exact .inl misses
  refine .inr ⟨u, hu, ?_⟩
  cases a with
  | registry =>
    obtain ⟨row, hrow, rfl⟩ := List.mem_map.1 hk
    have unregistered := (run.registrable row hrow).unregistered
    rwa [same] at unregistered
  | delegationLedger =>
    obtain ⟨row, hrow, rfl⟩ := List.mem_map.1 hk
    obtain ⟨-, represented, -⟩ | ⟨-, first, hfirst, key⟩ := (run.delegable row hrow).backed
    · right
      rwa [same] at represented
    · have unregistered := (run.registrable first hfirst).unregistered
      rw [key, same] at unregistered
      exact .inl unregistered

/-- Whatever is broadcast in a call carries the batch of one of its chunks. The registry's record of
each identity in it, at a moment while that chunk was read, left the identity to the account for
that batch, unless the look-up of this very identity at the registry failed in that reading. -/
theorem processRegistrations_permitted (through : e.ReadsThrough reader)
    {intents : List SignedRegistration} {t : List Exchange}
    (h : (e.processRegistrations intents).Begins t) (reflects : reader.Reflects content t)
    {raw : Bytes} {answer : (Ask.node (.sendRaw raw)).Answer}
    (sent : ⟨.node (.sendRaw raw), answer⟩ ∈ t) :
    ∃ (exclusions : ExclusionTable) (run : ChunkRun e exclusions) (a : Authority)
      (target : Address) (before behind : List Exchange),
      run.chunk ∈ e.chunksOf intents ∧ t = before ++ run.exchanges ++ behind ∧
      ⟨.node (.sendRaw raw), answer⟩ ∈ run.sending ∧ e.dispatcher.target? a = some target ∧
      e.gateway.Carries target (run.plan.callData a) raw ∧
      ∀ k ∈ run.plan.keys a, reader.Misses .registry run.reading k ∨
        ∃ u, u <+: run.reading ∧ (content (before ++ u)).Permits e.signer a k := by
  have loud : ¬(Ask.node (.sendRaw raw)).Quiet := fun quiet => quiet raw rfl
  obtain ⟨exclusions, -, run, hchunk, ⟨before, behind, split⟩, hsending⟩ :=
    processRegistrations_begins h _ sent loud
  have asking :=
    (Dispatcher.dispatch_asks e.dispatcher run.plan).question_of_begins run.sends _ hsending
  obtain sends | ⟨a, n, status, hq⟩ := asking
  · obtain ⟨a, target, htarget, -, carries⟩ := sends.broadcasts rfl
    refine ⟨exclusions, run, a, target, before, behind, hchunk, split.symm, hsending, htarget,
      carries, fun k hk => ?_⟩
    have regrouped : t = before ++ run.reading ++
        (run.preparing ++ run.planning ++ run.sending ++ behind) := by
      rw [← split, ChunkRun.exchanges]
      simp
    rw [regrouped] at reflects
    exact run.permitted through reflects hk
  · cases hq

/-- The sample call is permitted at authorities that know nobody. -/
theorem processRegistrations_permitted_sample :
    ∃ (t : List Exchange) (raw : Bytes) (answer : (Ask.node (.sendRaw raw)).Answer),
      settledEngine.ReadsThrough settledReader ∧
      (settledEngine.processRegistrations [sampleIntent 0]).Begins t ∧
      settledReader.Reflects (fun u => settledEngine.settleAll blank (broadcasts u)) t ∧
      ⟨.node (.sendRaw raw), answer⟩ ∈ t ∧
      ∃ (exclusions : ExclusionTable) (run : ChunkRun settledEngine exclusions) (a : Authority)
        (target : Address) (before : List Exchange),
        settledEngine.gateway.Carries target (run.plan.callData a) raw ∧
        ∀ k ∈ run.plan.keys a, settledReader.Misses .registry run.reading k ∨
          ∃ u, u <+: run.reading ∧
            (settledEngine.settleAll blank (broadcasts (before ++ u))).Permits
              settledEngine.signer a k := by
  obtain ⟨reply, raw, -, answered, yields, -⟩ := run_settledEngine
  have reflects := (applying_settlingNode answered settledReader).mirrors.reflects
  have sent : ⟨.node (.sendRaw raw), .ok (Transaction.hashRaw raw)⟩ ∈ sampleTrace reply raw := by
    simp [sampleTrace, sampleChunk, sampleSending]
  obtain ⟨exclusions, run, a, target, before, -, -, -, -, -, carries, permitted⟩ :=
    processRegistrations_permitted readsThrough_settledReader yields.begins reflects sent
  exact ⟨_, raw, _, readsThrough_settledReader, yields.begins, reflects, sent, exclusions, run, a,
    target, before, carries, permitted⟩

/-! ## A node that fails every look-up -/

open Gateway

def sampleLedger : Address :=
  .replicate 20 9

def delegatingReader : StatusReader :=
  ⟨hastyGateway sampleKey, .zero, some sampleLedger, 1⟩

def delegatingEngine : Engine :=
  { freshEngine with
    settings := { freshEngine.settings with delegation := some sampleLedger }
    statuses := delegatingReader.source
    canAuthorize := true }

/-- Authorities at which another account has registered everybody. -/
def foreign : Holdings :=
  ⟨fun _ => ⟨1, .replicate 20 7, .replicate 20 8⟩, fun _ => ⟨.zero, .zero, 0⟩⟩

/-- The reply to an aggregate whose one look-up reverts. -/
def revertedReply : Bytes :=
  Multicall.encodeAnswers [⟨false, []⟩]

theorem revertedReply_decodes :
    Multicall.decodeAnswers? revertedReply = some [⟨false, []⟩] := by
  decide +kernel

def sampleSignature : EcdsaSignature :=
  ⟨27, .zero, .zero⟩

def misledPlan : Plan :=
  Plan.rowsFor (.unchanged (sampleIntent 0)) (.unregistered true) delegatingEngine.signer .zero
    (some sampleSignature)

def misledTarget : Authority → Address
  | .registry => .zero
  | .delegationLedger => sampleLedger

def misledCall (a : Authority) : Transaction :=
  hastyCall (misledTarget a) (misledPlan.callData a)

def misledOpening : List Exchange :=
  [AggregateRead.exchange .zero .zero .registry ⟨[(sampleIntent 0).pubkey], .ok revertedReply⟩,
    AggregateRead.exchange .zero sampleLedger .delegationLedger
      ⟨[(sampleIntent 0).pubkey], .ok revertedReply⟩,
    ⟨.observe (.classified (sampleIntent 0).pubkey (.unregistered true)), ()⟩,
    ⟨.authorize (sampleIntent 0) delegatingEngine.signer, .ok sampleSignature⟩]

def misledSending (a : Authority) (raw : Bytes) : List Exchange :=
  hastySending sampleKey (misledTarget a) (misledPlan.callData a) raw ⟨false, some 1⟩ ++
    [report a 1 (settledAttempt (Transaction.hashRaw raw) ⟨false, some 1⟩).status]

def misledTrace (raw : Authority → Bytes) : List Exchange :=
  [⟨.acquire .session, ()⟩, ⟨.exclusions, sampleExclusions⟩] ++
    (misledOpening ++ (misledSending .registry (raw .registry) ++
      misledSending .delegationLedger (raw .delegationLedger)) ++ [⟨.release .session, ()⟩])

def misledStatuses : StatusSnapshot :=
  ⟨Table.empty.insert (sampleIntent 0).pubkey .unregistered,
    some (Table.empty.insert (sampleIntent 0).pubkey .unregistered)⟩

def misledFinal (raw : Authority → Bytes) : Plan :=
  misledPlan.dispatched fun a =>
    some (settledAttempt (Transaction.hashRaw (raw a)) ⟨false, some 1⟩)

theorem readStatuses_yields_misled :
    (delegatingEngine.readStatuses [(sampleIntent 0).pubkey]).Yields (misledOpening.take 2)
      (.ok misledStatuses) := by
  have failed (a : Authority) : statusOfAnswer a ⟨false, []⟩ = .unregistered :=
    statusOfAnswer_of_fails (.inl rfl)
  have registry : (delegatingReader.batchStatus [(sampleIntent 0).pubkey] .registry).Yields _ _ :=
    batchStatus_yields_single rfl revertedReply_decodes
  have ledger :
      (delegatingReader.batchStatus [(sampleIntent 0).pubkey] .delegationLedger).Yields _ _ :=
    batchStatus_yields_single rfl revertedReply_decodes
  rw [failed] at registry ledger
  refine yields_monad_bind.2 ⟨_, _, _, rfl, registry, ?_⟩
  exact yields_monad_bind.2 ⟨_, [], _, rfl, ledger, rfl, rfl⟩

theorem dispatch_yields_misled {raw : Authority → Bytes}
    (signed : ∀ a, (misledCall a).sign? sampleKey = some (raw a)) :
    (delegatingEngine.dispatcher.dispatch misledPlan).Yields
      (misledSending .registry (raw .registry) ++
        misledSending .delegationLedger (raw .delegationLedger))
      (.ok (), misledFinal raw) := by
  have attempt (a : Authority) : ((hastyGateway sampleKey).sendAndConfirm a.label (misledTarget a)
      (misledPlan.callData a)).Yields _ _ :=
    attempt_yields_hasty a.label ⟨false, some 1⟩ (signed a)
  have registry : (delegatingEngine.dispatcher.sendRegistrations misledPlan).Yields
      (misledSending .registry (raw .registry)) _ :=
    yields_monad_bind.2 ⟨_, _, _, rfl, attempt .registry, (), _, rfl, rfl, rfl⟩
  refine yields_monad_bind.2 ⟨_, _, _, rfl, registry, ?_⟩
  refine yields_monad_bind.2 ⟨_, [], _, (List.append_nil _).symm, ?_, rfl, rfl⟩
  exact yields_monad_bind.2 ⟨_, _, _, rfl, attempt .delegationLedger, (), _, rfl, rfl, rfl⟩

theorem prepare_yields_misled :
    (delegatingEngine.prepare sampleExclusions misledStatuses [sampleIntent 0]).Yields []
      [.unchanged (sampleIntent 0)] :=
  ⟨rfl, rfl⟩

theorem reconcile_yields_misled :
    (delegatingEngine.reconciler.reconcile sampleExclusions misledStatuses
      [.unchanged (sampleIntent 0)]).Yields (misledOpening.drop 2) misledPlan :=
  ⟨(), _, rfl, .ok sampleSignature, [], rfl, rfl, rfl⟩

def misledRun {raw : Authority → Bytes}
    (signed : ∀ a, (misledCall a).sign? sampleKey = some (raw a)) :
    FinishedRun delegatingEngine sampleExclusions where
  chunk := [sampleIntent 0]
  statuses := misledStatuses
  prepared := [.unchanged (sampleIntent 0)]
  plan := misledPlan
  reading := misledOpening.take 2
  preparing := []
  planning := misledOpening.drop 2
  sending := misledSending .registry (raw .registry) ++
    misledSending .delegationLedger (raw .delegationLedger)
  reads := readStatuses_yields_misled
  prepares := prepare_yields_misled
  plans := reconcile_yields_misled
  sends := (dispatch_yields_misled signed).begins
  final := misledFinal raw
  finishes := dispatch_yields_misled signed

theorem processRegistrations_yields_misled {raw : Authority → Bytes}
    (signed : ∀ a, (misledCall a).sign? sampleKey = some (raw a)) :
    (delegatingEngine.processRegistrations [sampleIntent 0]).Yields (misledTrace raw)
      (.ok (misledFinal raw).results) :=
  processRegistrations_of_runs (by simp) [misledRun signed] rfl

/-- Each aggregate in the exchanges got the reply in which the look-up reverts. -/
def Reverts (x : Exchange) : Prop :=
  match x with
  | ⟨.node (.call _ _), reply⟩ => reply = .ok revertedReply
  | _ => True

theorem reverts_misled (raw : Authority → Bytes) : ∀ x ∈ misledTrace raw, Reverts x := by
  simp [misledTrace, misledOpening, misledSending, hastySending, report, Reverts,
    AggregateRead.exchange]

theorem reflects_of_reverts {t : List Exchange} (h : ∀ x ∈ t, Reverts x)
    (content : List Exchange → Holdings) : delegatingReader.Reflects content t := by
  intro a target u read v answers htarget split outcome
  have inside : read.exchange delegatingReader.gateway.settings.multicall target a ∈ t := by
    rw [split]
    exact List.mem_append_right _ List.mem_cons_self
  have reply : read.answer = .ok revertedReply := h _ inside
  rw [AggregateRead.outcome, reply] at outcome
  dsimp only at outcome
  rw [revertedReply_decodes] at outcome
  dsimp only at outcome
  split at outcome
  · rename_i lengths
    cases outcome
    obtain ⟨k, single⟩ := List.length_eq_one_iff.1 lengths.symm
    rw [single]
    exact .cons (.inl (.inl rfl)) .nil
  · cases outcome

theorem misledCall_registry : misledCall .registry = sampleCall := rfl

set_option maxRecDepth 100000 in
theorem misledCall_signed :
    ∃ raw : Authority → Bytes,
      (∀ a, (misledCall a).sign? sampleKey = some (raw a)) ∧ ∀ a, (raw a).length < 2 ^ 64 := by
  have ledger : (((misledCall .delegationLedger).sign? sampleKey).any
      fun raw => raw.length < 2 ^ 64) = true := by
    decide +kernel
  have each (a : Authority) :
      ∃ raw, (misledCall a).sign? sampleKey = some raw ∧ raw.length < 2 ^ 64 := by
    cases a with
    | registry =>
      rw [misledCall_registry]
      exact sampleCall_signed_short
    | delegationLedger =>
      obtain ⟨raw, same, short⟩ := (Option.any_eq_true ..).1 ledger
      exact ⟨raw, same, of_decide_eq_true short⟩
  choose raw same short using each
  exact ⟨raw, same, short⟩

/-- The exception is real at both authorities: when every look-up of an identity reverts inside
aggregates that succeed, the engine registers the identity although another account has, and
delegates it although the other account represents it. -/
theorem processRegistrations_not_permitted :
    ∃ (t : List Exchange) (results : List ReconciliationResult) (raw : Authority → Bytes),
      delegatingEngine.ReadsThrough delegatingReader ∧
      delegatingReader.Reflects (fun _ => foreign) t ∧
      (delegatingEngine.processRegistrations [sampleIntent 0]).Yields t (.ok results) ∧
      broadcasts t = [raw .registry, raw .delegationLedger] ∧
      ∀ a, (sampleIntent 0).pubkey ∈ delegatingEngine.rowKeys (raw a) a ∧
        ¬foreign.Permits delegatingEngine.signer a (sampleIntent 0).pubkey := by
  obtain ⟨raw, signed, short⟩ := misledCall_signed
  have other : foreign.status .registry (sampleIntent 0).pubkey =
      ⟨.registered, .replicate 20 7, .replicate 20 8⟩ := rfl
  have stranger : (.replicate 20 7 : Address) ≠ delegatingEngine.signer := by decide +kernel
  refine ⟨misledTrace raw, (misledFinal raw).results, raw, ⟨rfl, rfl, rfl⟩,
    reflects_of_reverts (reverts_misled raw) _, processRegistrations_yields_misled signed, rfl,
    fun a => ⟨?_, ?_⟩⟩
  · have htarget : delegatingEngine.dispatcher.target? a = some (misledTarget a) := by
      cases a <;> rfl
    have carries : delegatingEngine.gateway.Carries (misledTarget a) (misledPlan.callData a)
        (raw a) := ⟨misledCall a, rfl, rfl, signed a⟩
    rw [rowKeys_of_carries htarget carries (short a)]
    cases a <;> exact List.mem_singleton_self _
  · cases a with
    | registry =>
      rw [Holdings.Permits, other]
      decide
    | delegationLedger =>
      rw [Holdings.Permits, other]
      rintro (unregistered | same)
      · cases unregistered
      · exact stranger same

end Engine

end Registrar
