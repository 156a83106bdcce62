import Registrar.Proofs.Accounting
import Registrar.Proofs.Consistency
import Registrar.Proofs.Course
import Registrar.Proofs.SettlingNode

/-! What a failing call leaves behind: all that was sent for the chunks before the failing reading,
and nothing for the chunk that it was for or for a later one. -/
namespace Registrar
set_option autoImplicit false

open Program Contract

/-! ## Whom a chunk is about -/

theorem Ask.subject?_of_sends {P : Bytes → Prop} {q : Ask} (h : q.Sends P) : q.subject? = none := by
  cases q with
  | signRegistration m | authorize r representative => cases h
  | observe e => cases h
  | _ => rfl

theorem broadcasts_flatMap {α : Type} (f : α → List Exchange) (items : List α) :
    broadcasts (items.flatMap f) = items.flatMap fun item => broadcasts (f item) := by
  induction items with
  | nil => rfl
  | cons item rest ih => rw [List.flatMap_cons, List.flatMap_cons, broadcasts_append, ih]

namespace Dispatcher

/-- A plan is sent: its batch for each authority, the registry's first, by one attempt, or not at all
where it is empty. -/
def Delivered (d : Dispatcher) (plan : Plan) (t : List Exchange) : Prop :=
  ∃ (part : Authority → List Exchange) (attempt : Authority → Option TxAttempt),
    t = part .registry ++ part .delegationLedger ∧
      ∀ a, Carried d plan a (part a) (attempt a)

end Dispatcher

namespace Engine

variable {e : Engine} {reader : StatusReader} {exclusions : ExclusionTable}

theorem FinishedRun.delivered (run : FinishedRun e exclusions) :
    e.dispatcher.Delivered run.plan run.sending := by
  obtain ⟨part, attempt, split, carried, -⟩ := Dispatcher.dispatch_carried run.finishes
  exact ⟨part, attempt, split, carried⟩

/-- Signers are asked for no other identities, and the observer is told of no others. -/
theorem ChunkRun.subject_mem (run : ChunkRun e exclusions) {x : Exchange} (hx : x ∈ run.exchanges)
    {k : PublicKey} (hk : k ∈ x.question.subject?) : k ∈ run.chunk.map (·.pubkey) := by
  rw [run.exchanges_eq, ChunkRun.opening, List.mem_append, List.mem_append, List.mem_append] at hx
  obtain ((hx | hx) | hx) | hx := hx
  · have looks := (readStatuses_looksUp e _).question_of_yields run.reads x hx
    rw [Ask.subject?_of_looksUp looks] at hk
    cases hk
  · exact ((prepare_preliminaryTo e exclusions run.statuses run.chunk).question_of_yields
      run.prepares x hx).2 k hk
  · have prepared := ((reconcile_preliminaryTo e.reconciler exclusions run.statuses
      run.prepared).question_of_yields run.plans x hx).2 k hk
    exact (prepare_accounts run.prepares).sublist.subset prepared
  · obtain sends | ⟨a, n, status, hq⟩ :=
      (Dispatcher.dispatch_asks e.dispatcher run.plan).question_of_begins run.sends x hx
    · rw [Ask.subject?_of_sends sends] at hk
      cases hk
    · rw [hq] at hk
      cases hk

theorem ChunkRun.broadcasts_eq (run : ChunkRun e exclusions) :
    Registrar.broadcasts run.exchanges = Registrar.broadcasts run.sending := by
  rw [run.exchanges_eq, broadcasts_append,
    broadcasts_of_silent fun x hx => (run.opening_calm x hx).1, List.nil_append]

/-- Chunks share no identity. -/
theorem not_mem_of_chunksOf {intents : List SignedRegistration}
    {behind ahead : List (List SignedRegistration)} (split : e.chunksOf intents = behind ++ ahead)
    {k : PublicKey} (hk : k ∈ ahead.flatten.map (·.pubkey)) {chunk : List SignedRegistration}
    (hchunk : chunk ∈ behind) : k ∉ chunk.map (·.pubkey) := by
  have nodup := nodup_eraseDups (intents.map (·.pubkey))
  rw [← map_pubkey_chunksOf e, split, List.flatten_append, List.map_append] at nodup
  intro inside
  have earlier : k ∈ behind.flatten.map (·.pubkey) :=
    ((List.sublist_flatten_of_mem hchunk).map (·.pubkey)).subset inside
  exact (List.nodup_append.1 nodup).2.2 k earlier k hk rfl

/-! ## Calls that fail -/

/-- For an engine that reads through a reader, whatever the node and the signers answer. No reading
fails but by an aggregate that fails, and no chunk fails in being sent, so that neither of them ever
misses the address of a contract. A call that ends gives results, or fails with the reading of one
of its chunks. Then the chunks before were sent to their ends, each batch by an attempt, and what
they broadcast is all that the call broadcast; for the failing chunk nothing was asked but look-ups;
and no identity of it or of a later chunk has a row in a batch that was planned, or was put to a
signer or named to the observer. -/
theorem processRegistrations_contained (through : e.ReadsThrough reader) :
    (∀ (keys : List PublicKey) (t : List Exchange) (err : Error),
      (e.readStatuses keys).Yields t (.error err) →
      ∃ (a : Authority) (details : String), err = .statusReadFailed a.label details ∧
        reader.Breaks a t) ∧
    (∀ (exclusions : ExclusionTable) (run : ChunkRun e exclusions) (t : List Exchange)
      (sent : Except Error Unit) (final : Plan),
      (e.dispatcher.dispatch run.plan).Yields t (sent, final) → sent = .ok ()) ∧
    ∀ (intents : List SignedRegistration) (t : List Exchange)
      (r : Except Error (List ReconciliationResult)),
      (e.processRegistrations intents).Yields t r →
      (∃ results, r = .ok results) ∨
        ∃ (exclusions : ExclusionTable) (runs : List (FinishedRun e exclusions))
          (chunk : List SignedRegistration) (later : List (List SignedRegistration))
          (reading : List Exchange) (a : Authority) (details : String),
          r = .error (.statusReadFailed a.label details) ∧
          e.chunksOf intents = runs.map (·.chunk) ++ chunk :: later ∧
          t = ⟨.acquire .session, ()⟩ :: ⟨.exclusions, exclusions⟩ ::
            (runs.flatMap (·.exchanges) ++ reading ++ [⟨.release .session, ()⟩]) ∧
          reader.Breaks a reading ∧ (∀ x ∈ reading, x.question.looksUp = true) ∧
          (∀ run ∈ runs, e.dispatcher.Delivered run.plan run.sending) ∧
          broadcasts t = runs.flatMap (fun run => broadcasts run.sending) ∧
          ∀ k ∈ (chunk :: later).flatten.map (·.pubkey),
            (∀ x ∈ t, k ∉ x.question.subject?) ∧ ∀ run ∈ runs, ∀ a, k ∉ run.plan.keys a := by
  refine ⟨fun keys t err h => readStatuses_error through h,
    fun exclusions run t sent final h => run.dispatch_ok h, fun intents t r h => ?_⟩
  cases r with
  | ok results => exact .inl ⟨results, rfl⟩
  | error err =>
  right
  obtain ⟨exclusions, runs, chunk, later, reading, split, rfl, failed⟩ :=
    processRegistrations_error h
  obtain ⟨a, details, rfl, breaks⟩ := readStatuses_error through failed
  have looks := (readStatuses_looksUp e _).question_of_yields failed
  refine ⟨exclusions, runs, chunk, later, reading, a, details, rfl, split, rfl, breaks, looks,
    fun run _ => run.delivered, ?broadcasts, fun k hk => ?strangers⟩
  case broadcasts =>
    have behind : broadcasts (runs.flatMap (·.exchanges)) =
        runs.flatMap fun run => broadcasts run.sending := by
      rw [broadcasts_flatMap]
      exact List.flatMap_congr fun run _ => run.broadcasts_eq
    have opening : broadcasts [⟨.acquire .session, ()⟩, ⟨.exclusions, exclusions⟩] = [] := rfl
    have closing : broadcasts [⟨.release .session, ()⟩] = [] := rfl
    have whole : (⟨.acquire .session, ()⟩ :: ⟨.exclusions, exclusions⟩ ::
        (runs.flatMap (·.exchanges) ++ reading ++ [⟨.release .session, ()⟩]) : List Exchange) =
        [⟨.acquire .session, ()⟩, ⟨.exclusions, exclusions⟩] ++
          (runs.flatMap (·.exchanges) ++ reading ++ [⟨.release .session, ()⟩]) := rfl
    rw [whole, broadcasts_append, broadcasts_append, broadcasts_append, opening, closing, behind,
      broadcasts_of_silent (silent_of_looksUp looks), List.nil_append, List.append_nil,
      List.append_nil]
  case strangers =>
    have foreign (run : FinishedRun e exclusions) (hrun : run ∈ runs) :
        k ∉ run.chunk.map (·.pubkey) :=
      not_mem_of_chunksOf split hk (List.mem_map_of_mem hrun)
    refine ⟨fun x hx subject => ?_, fun run hrun a row => ?_⟩
    · simp only [List.mem_cons, List.mem_append, List.mem_flatMap, List.not_mem_nil, or_false] at hx
      obtain rfl | rfl | (⟨run, hrun, hx⟩ | hx) | rfl := hx
      · cases subject
      · cases subject
      · exact foreign run hrun (run.subject_mem hx subject)
      · rw [Ask.subject?_of_looksUp (looks x hx)] at subject
        cases subject
      · cases subject
    · exact foreign run hrun (run.keys_subset a row)

/-! ## A call that fails at its second chunk -/

def lostReply : Error :=
  .nodeRpc "eth_call" "connection reset"

/-- The look-up of the second identity is lost. -/
theorem processRegistrations_yields_lost {reply raw : Bytes}
    (decoded : Multicall.decodeAnswers? reply = some [blank.answer sampleLookup])
    (signed : sampleCall.sign? Gateway.sampleKey = some raw) :
    (settledEngine.processRegistrations [sampleIntent 0, sampleIntent 2]).Yields
      (⟨.acquire .session, ()⟩ :: ⟨.exclusions, Gateway.sampleExclusions⟩ ::
        (sampleChunk reply raw ++
          [AggregateRead.exchange .zero .zero .registry
            ⟨[(sampleIntent 2).pubkey], .error lostReply⟩] ++ [⟨.release .session, ()⟩]))
      (.error (.statusReadFailed "registry" lostReply.text)) := by
  have target : settledReader.target .registry = .ok .zero := rfl
  have refused := batchStatus_yields_refused (sampleIntent 2).pubkey lostReply target
  have failed : (settledEngine.readStatuses [(sampleIntent 2).pubkey]).Yields _ _ :=
    yields_monad_bind.2 ⟨_, [], _, (List.append_nil _).symm, refused, rfl, rfl⟩
  exact processRegistrations_error_of_runs (by simp) [sampleRun decoded signed] rfl failed

/-- The first identity was sent, and nothing was asked about the second one but its look-up. -/
theorem processRegistrations_contained_lost :
    settledEngine.ReadsThrough settledReader ∧
      ∃ (t : List Exchange) (details : String) (raw : Bytes),
        (settledEngine.processRegistrations [sampleIntent 0, sampleIntent 2]).Yields t
          (.error (.statusReadFailed "registry" details)) ∧
        broadcasts t = [raw] ∧
        ∃ (exclusions : ExclusionTable) (runs : List (FinishedRun settledEngine exclusions))
          (chunk : List SignedRegistration) (later : List (List SignedRegistration)),
          settledEngine.chunksOf [sampleIntent 0, sampleIntent 2] =
            runs.map (·.chunk) ++ chunk :: later ∧
          (∀ run ∈ runs, settledEngine.dispatcher.Delivered run.plan run.sending) ∧
          broadcasts t = runs.flatMap (fun run => broadcasts run.sending) ∧
          ∀ k ∈ (chunk :: later).flatten.map (·.pubkey),
            (∀ x ∈ t, k ∉ x.question.subject?) ∧ ∀ run ∈ runs, ∀ a, k ∉ run.plan.keys a := by
  obtain ⟨raw, signed⟩ := sampleCall_signed
  obtain ⟨reply, -, decoded⟩ := blank.exists_reply .zero .registry (sampleIntent 0).pubkey
  have yields := processRegistrations_yields_lost decoded signed
  obtain ⟨results, ok⟩ | ⟨exclusions, runs, chunk, later, reading, a, details, -, split, -, -, -,
      delivered, sent, strangers⟩ :=
    (processRegistrations_contained readsThrough_settledReader).2.2 _ _ _ yields
  · cases ok
  · exact ⟨readsThrough_settledReader, _, _, raw, yields, rfl, exclusions, runs, chunk, later, split,
      delivered, sent, strangers⟩

end Engine

end Registrar
