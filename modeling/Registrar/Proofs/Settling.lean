import Registrar.Proofs.Applying
import Registrar.Proofs.Signers

/-! What a plan leaves behind. Once the rows of an identity have been entered, its statuses call for
nothing more, and whoever reads them then gets the same result for it. -/
namespace Registrar
set_option autoImplicit false

open Program Contract

/-! ## One identity seen again -/

/-- What is read of an identity once its rows have been applied. -/
def IdentityStatus.after (status : IdentityStatus) (signer : Address) (plan : Plan) :
    IdentityStatus where
  registry :=
    match plan.registryBatch with
    | [] => status.registry
    | row :: _ => ⟨.registered, signer, row.payoutRecipient⟩
  delegation :=
    match plan.delegationBatch with
    | [] => status.delegation
    | row :: _ => some ⟨.ofLedger signer 1, signer, row.payoutRecipient⟩

@[simp] theorem IdentityStatus.after_empty (status : IdentityStatus) (signer : Address) :
    status.after signer .empty = status := rfl

/-- The second result is about the same identity and the same parties, and nothing was to be done
for it. -/
structure ReconciliationResult.Repeats (first second : ReconciliationResult) : Prop where
  pubkey : second.pubkey = first.pubkey
  representative : second.representative = first.representative
  payoutRecipient : second.payoutRecipient = first.payoutRecipient
  registry : second.registry = .alreadySatisfied
  delegation : second.delegation = .alreadySatisfied ∨ second.delegation = .notRequired

@[simp] theorem Plan.resultFor_representative (prepared : PreparedRegistration)
    (state : IdentityState) (representative payout : Address)
    (secondary : Option EcdsaSignature) :
    (resultFor prepared state representative payout secondary).representative =
      representative := by
  unfold resultFor
  split <;> split <;> rfl

/-- The second plan has nothing to send, and its results repeat those of the first. -/
structure Plan.Settles (first second : Plan) : Prop where
  noop : second.isNoop = true
  results : List.Forall₂ ReconciliationResult.Repeats first.results second.results

namespace Signers

variable {o : Signers} {e : Engine} {exclusion : Exclusion} {status : IdentityStatus}
  {intent : SignedRegistration}

/-- Nobody's recipient is replaced who is registered. -/
theorem prepared_of_registered (h : status.registry.isUnregistered = false) :
    o.prepared e exclusion status intent = some (.unchanged intent) := by
  have kept : e.overrideAt exclusion status intent = none := by
    unfold Engine.overrideAt
    cases e.settings.payoutOverride with
    | none => rfl
    | some payout => simp [h]
  rw [prepared, kept]

/-- Rows are not planned again for an identity that is found registered, or found at both
authorities, with the parties that the rows put there. -/
theorem settles_of_classify {prepared : PreparedRegistration} {found : IdentityState}
    {representative payout : Address} {signature : Option EcdsaSignature}
    (key : prepared.pubkey = intent.pubkey) (registered : status.registry.isUnregistered = false)
    (state : classify status exclusion e.signer = .registryOnly representative payout false ∨
      classify status exclusion e.signer = .fullyDelegated representative payout) :
    (Plan.rowsFor prepared found representative payout signature).Settles
      (o.outcome e exclusion status intent) := by
  have again : ∃ state : IdentityState, state.needsRegistration = false ∧
      (∀ prepared, (Plan.resultFor prepared state representative payout none).delegation =
        .alreadySatisfied ∨
        (Plan.resultFor prepared state representative payout none).delegation = .notRequired) ∧
      o.outcome e exclusion status intent =
        Plan.rowsFor (.unchanged intent) state representative payout none := by
    rw [outcome, prepared_of_registered registered]
    obtain state | state := state
    · exact ⟨_, rfl, fun _ => .inr rfl, by rw [state]; rfl⟩
    · exact ⟨_, rfl, fun _ => .inl rfl, by rw [state]; rfl⟩
  obtain ⟨state, unneeded, delegation, again⟩ := again
  rw [again]
  constructor
  · rw [Plan.isNoop, Plan.rowsFor, unneeded]
    rfl
  · refine .cons ⟨?_, ?_, ?_, ?_, delegation _⟩ .nil
    · rw [Plan.resultFor_pubkey, Plan.resultFor_pubkey, key]
      rfl
    · rw [Plan.resultFor_representative, Plan.resultFor_representative]
    · rw [Plan.resultFor_payoutRecipient, Plan.resultFor_payoutRecipient]
    · rw [Plan.resultFor_registry, unneeded]
      rfl

theorem settles_of_empty (h : o.outcome e exclusion status intent = .empty) :
    (o.outcome e exclusion status intent).Settles
      (o.outcome e exclusion
        (status.after e.signer (o.outcome e exclusion status intent)) intent) := by
  rw [h, IdentityStatus.after_empty, h]
  exact ⟨rfl, .nil⟩

/-- Once what an identity adds to the plan has been applied, it adds nothing to send any more, and
its result stays the same but for what is then done already. -/
theorem settles_after (signer : e.signer.isZero = false) :
    (o.outcome e exclusion status intent).Settles
      (o.outcome e exclusion
        (status.after e.signer (o.outcome e exclusion status intent)) intent) := by
  obtain empty | ⟨prepared, signature, key, reported, needed, rows⟩ :=
    o.outcome_cases e exclusion status intent
  · exact settles_of_empty empty
  have held : (StatusKind.ofLedger e.signer 1).isUnregistered = false :=
    StatusKind.isUnregistered_ofLedger signer 1
  rw [rows]
  dsimp only
  cases state : classify status exclusion e.signer with
  | excluded | unauthorized representative | inconsistent =>
    rw [state] at reported
    cases reported
  | unregistered delegate =>
    rw [state] at needed
    obtain ⟨undelegated, due⟩ := of_classify_unregistered state
    cases signature with
    | none =>
      exact settles_of_classify key rfl
        (.inl (classify_of_undelegated rfl undelegated (due.trans needed)))
    | some signature =>
      exact settles_of_classify key rfl (.inr (classify_of_delegated rfl rfl held))
  | registryOnly representative payout delegate =>
    obtain ⟨registered, rfl, rfl⟩ := of_classify_registryOnly state
    cases signature with
    | none =>
      obtain rfl : delegate = false := by
        rw [state] at needed
        exact needed
      exact settles_of_classify key registered (.inl state)
    | some signature =>
      exact settles_of_classify key registered (.inr (classify_of_delegated registered rfl held))
  | fullyDelegated representative payout =>
    obtain ⟨registered, -⟩ := fullyDelegated_classify.1 ⟨_, _, state⟩
    cases signature with
    | none => exact settles_of_classify key registered (.inr state)
    | some signature =>
      rw [state] at needed
      cases needed

end Signers

/-! ## One identity among others -/

section

variable {ρ : Type} {key : ρ → PublicKey} {rows : SignedRegistration → List ρ}
  {intents : List SignedRegistration} {intent : SignedRegistration} {k : PublicKey}

theorem mem_rows_iff (own : ∀ intent, ∀ row ∈ rows intent, key row = intent.pubkey)
    (nodup : (intents.map (·.pubkey)).Nodup) (h : intent ∈ intents) (row : ρ) :
    row ∈ rows intent ↔ row ∈ intents.flatMap rows ∧ key row = intent.pubkey := by
  refine ⟨fun hrow => ⟨List.mem_flatMap.2 ⟨intent, h, hrow⟩, own intent row hrow⟩, ?_⟩
  rintro ⟨hrow, same⟩
  obtain ⟨other, hother, hrow⟩ := List.mem_flatMap.1 hrow
  rwa [← List.inj_on_of_nodup_map nodup hother h ((own other row hrow).symm.trans same)]

theorem not_mem_rows (own : ∀ intent, ∀ row ∈ rows intent, key row = intent.pubkey)
    (h : k ∉ intents.map (·.pubkey)) (row : ρ) : ¬(row ∈ intents.flatMap rows ∧ key row = k) := by
  rintro ⟨hrow, rfl⟩
  obtain ⟨other, hother, hrow⟩ := List.mem_flatMap.1 hrow
  exact h (List.mem_map.2 ⟨other, hother, (own other row hrow).symm⟩)

end

/-- The part is all that the plan has for the identity, at most one row for each authority. -/
structure Plan.HasPart (whole : Plan) (k : PublicKey) (part : Plan) : Prop where
  registry : ∀ row, row ∈ part.registryBatch ↔ row ∈ whole.registryBatch ∧ row.pubkey = k
  delegation : ∀ row, row ∈ part.delegationBatch ↔ row ∈ whole.delegationBatch ∧ row.pubkey = k
  registry_length : part.registryBatch.length ≤ 1
  delegation_length : part.delegationBatch.length ≤ 1

namespace Plan

variable {f : SignedRegistration → Plan} {intents : List SignedRegistration}
  {intent : SignedRegistration} {k : PublicKey}

theorem flat_map (f : SignedRegistration → Plan) (intents : List SignedRegistration) :
    flat (intents.map f) = ⟨intents.flatMap fun intent => (f intent).results,
      intents.flatMap fun intent => (f intent).registryBatch,
      intents.flatMap fun intent => (f intent).delegationBatch⟩ := by
  simp only [flat, List.flatMap_map]

theorem hasPart_flat (own : ∀ intent, (f intent).HasPart intent.pubkey (f intent))
    (nodup : (intents.map (·.pubkey)).Nodup) (h : intent ∈ intents) :
    (flat (intents.map f)).HasPart intent.pubkey (f intent) := by
  rw [flat_map]
  exact ⟨mem_rows_iff (fun intent row hrow => (((own intent).registry row).1 hrow).2) nodup h,
    mem_rows_iff (fun intent row hrow => (((own intent).delegation row).1 hrow).2) nodup h,
    (own intent).registry_length, (own intent).delegation_length⟩

theorem hasPart_flat_of_not_mem (own : ∀ intent, (f intent).HasPart intent.pubkey (f intent))
    (h : k ∉ intents.map (·.pubkey)) : (flat (intents.map f)).HasPart k .empty := by
  rw [flat_map]
  refine ⟨fun row => iff_of_false List.not_mem_nil ?_, fun row => iff_of_false List.not_mem_nil ?_,
    Nat.zero_le _, Nat.zero_le _⟩
  · exact not_mem_rows (fun intent row hrow => (((own intent).registry row).1 hrow).2) h row
  · exact not_mem_rows (fun intent row hrow => (((own intent).delegation row).1 hrow).2) h row

theorem isNoop_flat (noop : ∀ intent ∈ intents, (f intent).isNoop = true) :
    (flat (intents.map f)).isNoop = true := by
  induction intents with
  | nil => rfl
  | cons intent rest ih =>
    have first := noop intent List.mem_cons_self
    have others := ih fun intent h => noop intent (List.mem_cons_of_mem _ h)
    rw [List.map_cons, flat_cons]
    simp only [isNoop, Bool.and_eq_true, List.isEmpty_iff] at first others ⊢
    exact ⟨List.append_eq_nil_iff.2 ⟨first.1, others.1⟩,
      List.append_eq_nil_iff.2 ⟨first.2, others.2⟩⟩

end Plan

/-- Whatever an identity adds to the plan is about it alone. -/
theorem Signers.hasPart_outcome (o : Signers) (e : Engine) (exclusion : Exclusion)
    (status : IdentityStatus) (intent : SignedRegistration) :
    (o.outcome e exclusion status intent).HasPart intent.pubkey
      (o.outcome e exclusion status intent) := by
  obtain empty | ⟨prepared, signature, key, -, -, rows⟩ :=
    o.outcome_cases e exclusion status intent
  · rw [empty]
    exact ⟨by simp [Plan.empty], by simp [Plan.empty], Nat.zero_le _, Nat.zero_le _⟩
  rw [rows, ← key]
  constructor
  · intro row
    refine ⟨fun hrow => ⟨hrow, ?_⟩, And.left⟩
    unfold Plan.rowsFor at hrow
    dsimp only at hrow
    split at hrow
    · rw [List.mem_singleton.1 hrow]
    · cases hrow
  · intro row
    refine ⟨fun hrow => ⟨hrow, ?_⟩, And.left⟩
    cases signature with
    | none => cases hrow
    | some signature => rw [List.mem_singleton.1 hrow]
  · unfold Plan.rowsFor
    dsimp only
    split
    · exact Nat.le_refl 1
    · exact Nat.zero_le 1
  · cases signature with
    | none => exact Nat.zero_le 1
    | some signature => exact Nat.le_refl 1

/-! ## What is read -/

/-- A record that rows were entered into, of which at most one is for the identity. -/
theorem record_of_rows {ρ α : Type} {key : ρ → PublicKey} {value : ρ → α} {rows part : List ρ}
    {k : PublicKey} {held now : α} (same : ∀ row, row ∈ part ↔ row ∈ rows ∧ key row = k)
    (few : part.length ≤ 1)
    (h : ((∀ row ∈ rows, key row ≠ k) ∧ now = held) ∨ ∃ row ∈ rows, key row = k ∧ now = value row) :
    now = part.head?.elim held value := by
  cases part with
  | nil =>
    obtain ⟨-, unchanged⟩ | ⟨row, hrow, hk, -⟩ := h
    · exact unchanged
    · cases (same row).2 ⟨hrow, hk⟩
  | cons row rest =>
    obtain rfl : rest = [] :=
      List.eq_nil_of_length_eq_zero (Nat.le_zero.1 (Nat.le_of_succ_le_succ few))
    obtain ⟨others, -⟩ | ⟨other, hother, hk, changed⟩ := h
    · obtain ⟨hrow, hk⟩ := (same row).1 List.mem_cons_self
      exact absurd hk (others row hrow)
    · rw [changed, List.mem_singleton.1 ((same other).2 ⟨hother, hk⟩)]
      rfl

namespace Engine

variable {e : Engine} {reader : StatusReader} {o : Signers} {table : ExclusionTable}
  {initial : Holdings} {applied : List Exchange → List Bytes} {t u v : List Exchange}

def statusIn (e : Engine) (c : Holdings) (k : PublicKey) : IdentityStatus :=
  ⟨c.status .registry k, e.settings.delegation.map fun _ => c.status .delegationLedger k⟩

/-- Once a plan has been carried out, an identity is found as its part of the plan leaves it. -/
theorem Enters.statusIn_eq {whole part : Plan} {k : PublicKey} (h : e.Enters whole u)
    (applying : e.Applying reader initial applied t) (silent : Silent v) (inside : u ++ v <+: t)
    (hpart : whole.HasPart k part)
    (used : part.delegationBatch ≠ [] → e.settings.delegation.isSome = true) :
    e.statusIn (e.settleAll initial (applied (u ++ v))) k =
      (e.statusIn initial k).after e.signer part := by
  obtain ⟨registry, delegation⟩ := h.applied_iff applying silent inside
  have registered := record_of_rows
    (fun row => (hpart.registry row).trans (and_congr_left fun _ => (registry row).symm))
    hpart.registry_length (e.settleAll_registry_cases initial (applied (u ++ v)) k)
  have delegated := record_of_rows
    (fun row => (hpart.delegation row).trans (and_congr_left fun _ => (delegation row).symm))
    hpart.delegation_length (e.settleAll_ledger_cases initial (applied (u ++ v)) k)
  rw [statusIn, IdentityStatus.after, Holdings.status, Holdings.status, registered, delegated]
  congr 1
  · cases part.registryBatch <;> rfl
  · cases rows : part.delegationBatch with
    | nil => rfl
    | cons row rest =>
      obtain ⟨ledger, hl⟩ := Option.isSome_iff_exists.1 (used (by simp [rows]))
      rw [hl]
      rfl

theorem readStatuses_identity (through : e.ReadsThrough reader)
    {content : List Exchange → Holdings} {before behind : List Exchange}
    (mirrors : reader.Mirrors content (before ++ t ++ behind)) {keys : List PublicKey}
    {statuses : StatusSnapshot} (h : (e.readStatuses keys).Yields t (.ok statuses)) {k : PublicKey}
    (hk : k ∈ keys) {status : IdentityStatus}
    (held : ∀ u, u <+: t → e.statusIn (content (before ++ u)) k = status) :
    statuses.identity k = status := by
  obtain ⟨registry, delegation⟩ := readStatuses_told through h hk
  have used := readStatuses_delegation h
  obtain ⟨u, hu, registered⟩ := mirrors.status_eq registry
  have first := held u hu
  rw [StatusSnapshot.identity, registered]
  cases hl : statuses.delegation with
  | none =>
    rw [hl] at used
    have unused : e.settings.delegation = none := by simpa using used.symm
    rw [← first, statusIn, unused]
    rfl
  | some ledger =>
    rw [hl] at used
    obtain ⟨target, htarget⟩ := Option.isSome_iff_exists.1 used.symm
    obtain ⟨w, hw, delegated⟩ := mirrors.status_eq (delegation ledger hl)
    have second := held w hw
    rw [statusIn, htarget] at first second
    rw [Option.map_some, delegated, ← first]
    have same : some ((content (before ++ w)).status .delegationLedger k) =
        some ((content (before ++ u)).status .delegationLedger k) :=
      congrArg IdentityStatus.delegation (second.trans first.symm)
    rw [same]
    rfl

/-- The plan of a chunk is known beforehand where all moments of its reading show the same. -/
theorem ChunkRun.plan_eq (run : ChunkRun e table) (through : e.ReadsThrough reader)
    {content : List Exchange → Holdings} {before behind : List Exchange}
    (mirrors : reader.Mirrors content (before ++ run.reading ++ behind))
    (answer : o.Answer run.opening) {status : SignedRegistration → IdentityStatus}
    (held : ∀ u, u <+: run.reading → ∀ intent ∈ run.chunk,
      e.statusIn (content (before ++ u)) intent.pubkey = status intent) :
    run.plan = Plan.flat (run.chunk.map fun intent =>
      o.outcome e (table.entry intent.pubkey) (status intent) intent) := by
  rw [Signers.chunk_plan run.prepares run.plans (answer.mono run.asked_subset)]
  refine congrArg Plan.flat (List.map_congr_left fun intent hintent => ?_)
  rw [readStatuses_identity through mirrors run.reads (List.mem_map_of_mem hintent)
    fun u hu => held u hu intent hintent]

end Engine

end Registrar
