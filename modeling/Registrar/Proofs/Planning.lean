import Mathlib.Data.List.Nodup
import Registrar.Proofs.Classification
import Registrar.Proofs.Transcript

/-! The plan for one chunk, identity by identity: what each adds to it, and what was asked for
that. -/
namespace Registrar
set_option autoImplicit false

open Contract
open Program

/-! ## Results and their statuses -/

namespace ReconciliationResult

/-- The flags of success tell what the statuses tell. -/
def InStep (r : ReconciliationResult) : Prop :=
  r.registrySuccess = r.registry.isSuccess ∧ r.delegationSuccess = r.delegation.isSuccess

variable {r : ReconciliationResult} {a : Authority} {s : DispatchStatus}

theorem InStep.setStatus (h : r.InStep) : (r.setStatus a s).InStep := by
  cases a with
  | registry => exact ⟨rfl, h.2⟩
  | delegationLedger => exact ⟨h.1, rfl⟩

@[simp] theorem pubkey_setStatus : (r.setStatus a s).pubkey = r.pubkey := by
  cases a <;> rfl

@[simp] theorem representative_setStatus :
    (r.setStatus a s).representative = r.representative := by
  cases a <;> rfl

@[simp] theorem payoutRecipient_setStatus :
    (r.setStatus a s).payoutRecipient = r.payoutRecipient := by
  cases a <;> rfl

@[simp] theorem secondarySignature_setStatus :
    (r.setStatus a s).secondarySignature = r.secondarySignature := by
  cases a <;> rfl

theorem status_setStatus (b : Authority) :
    (r.setStatus a s).status b = if b = a then s else r.status b := by
  cases a <;> cases b <;> rfl

end ReconciliationResult

namespace Plan

section

variable (prepared : PreparedRegistration) (state : IdentityState)
  (representative payout : Address) (secondary : Option EcdsaSignature)

@[simp] theorem resultFor_pubkey :
    (resultFor prepared state representative payout secondary).pubkey = prepared.pubkey := by
  unfold resultFor
  split <;> split <;> rfl

@[simp] theorem resultFor_payoutRecipient :
    (resultFor prepared state representative payout secondary).payoutRecipient = payout := by
  unfold resultFor
  split <;> split <;> rfl

@[simp] theorem resultFor_secondarySignature :
    (resultFor prepared state representative payout secondary).secondarySignature = secondary := by
  unfold resultFor
  split <;> split <;> rfl

theorem resultFor_registry :
    (resultFor prepared state representative payout secondary).registry =
      if state.needsRegistration then .notRequired else .alreadySatisfied := by
  unfold resultFor
  split <;> split <;> rfl

theorem resultFor_inStep :
    (resultFor prepared state representative payout secondary).InStep := by
  unfold resultFor
  split <;> split <;> exact ⟨rfl, rfl⟩

end

/-- A result counts as done at the ledger only where both authorities know the identity. -/
theorem resultFor_delegation (prepared : PreparedRegistration) {state : IdentityState}
    (representative payout : Address) (secondary : Option EcdsaSignature)
    (h : ¬∃ onRecord recipient, state = .fullyDelegated onRecord recipient) :
    (resultFor prepared state representative payout secondary).delegation = .notRequired := by
  cases state with
  | fullyDelegated onRecord recipient => exact absurd ⟨_, _, rfl⟩ h
  | _ => cases secondary <;> rfl

end Plan

namespace Reconciler

variable {r : Reconciler} {exclusions : ExclusionTable} {statuses : StatusSnapshot}
  {prepared : PreparedRegistration}

/-! ## One identity -/

/-- The state in which an identity is found. -/
def stateOf (r : Reconciler) (exclusions : ExclusionTable) (statuses : StatusSnapshot)
    (prepared : PreparedRegistration) : IdentityState :=
  classify (statuses.identity prepared.pubkey) (exclusions.entry prepared.pubkey) r.signer

/-- What a reported identity adds to the plan, with the signature for its delegation if there is to
be one. -/
def rows (r : Reconciler) (exclusions : ExclusionTable) (statuses : StatusSnapshot)
    (prepared : PreparedRegistration) (secondary : Option EcdsaSignature) : Plan :=
  let state := r.stateOf exclusions statuses prepared
  let parties := Plan.parties r.signer prepared.payoutRecipient state
  Plan.rowsFor prepared state parties.1 parties.2 secondary

theorem registryBatch_rows (secondary : Option EcdsaSignature) :
    (r.rows exclusions statuses prepared secondary).registryBatch =
      if (r.stateOf exclusions statuses prepared).needsRegistration then
        [⟨prepared.pubkey,
          (Plan.parties r.signer prepared.payoutRecipient
            (r.stateOf exclusions statuses prepared)).2,
          prepared.registration.message.gasLimit, prepared.registration.message.timestamp,
          prepared.registration.signature⟩]
      else [] := rfl

/-- The ways in which one identity is planned for. -/
inductive Planned (r : Reconciler) (exclusions : ExclusionTable) (statuses : StatusSnapshot)
    (prepared : PreparedRegistration) : List Exchange → Plan → Prop
  | omitted (reason : Omission)
      (h : Plan.omission? (r.stateOf exclusions statuses prepared) = some reason) :
    Planned r exclusions statuses prepared
      [⟨.observe (.classified prepared.pubkey (r.stateOf exclusions statuses prepared)), ()⟩,
        ⟨.observe (.omitted prepared.pubkey reason), ()⟩]
      .empty
  | unsigned (asking : List Exchange)
      (h : ∀ x ∈ asking, ∃ registration representative e,
        x = ⟨.authorize registration representative, .error e⟩) :
    Planned r exclusions statuses prepared
      (⟨.observe (.classified prepared.pubkey (r.stateOf exclusions statuses prepared)), ()⟩ ::
        (asking ++ [⟨.observe (.omitted prepared.pubkey .secondarySignature), ()⟩]))
      .empty
  | delegated (signature : EcdsaSignature)
      (reported : Plan.omission? (r.stateOf exclusions statuses prepared) = none)
      (needed : (r.stateOf exclusions statuses prepared).needsDelegation = true) :
    Planned r exclusions statuses prepared
      [⟨.observe (.classified prepared.pubkey (r.stateOf exclusions statuses prepared)), ()⟩,
        ⟨.authorize prepared.registration r.signer, .ok signature⟩]
      (r.rows exclusions statuses prepared (some signature))
  | reported
      (reported : Plan.omission? (r.stateOf exclusions statuses prepared) = none)
      (unneeded : (r.stateOf exclusions statuses prepared).needsDelegation = false) :
    Planned r exclusions statuses prepared
      [⟨.observe (.classified prepared.pubkey (r.stateOf exclusions statuses prepared)), ()⟩]
      (r.rows exclusions statuses prepared none)

theorem secondarySignature_yields {representative : Address} {t : List Exchange}
    {answer : Except Error EcdsaSignature}
    (h : (r.secondarySignature prepared representative).Yields t answer) :
    (t = [⟨.authorize prepared.registration representative, answer⟩]) ∨
      t = [] ∧ ∃ e, answer = .error e := by
  unfold secondarySignature at h
  split at h
  · exact .inl (yields_request.1 h)
  · obtain ⟨rfl, rfl⟩ := h
    exact .inr ⟨rfl, _, rfl⟩

theorem planOne_planned {t : List Exchange} {plan : Plan}
    (h : (r.planOne exclusions statuses prepared).Yields t plan) :
    Planned r exclusions statuses prepared t plan := by
  have found : classify (statuses.identity prepared.pubkey) (exclusions.entry prepared.pubkey)
    r.signer = r.stateOf exclusions statuses prepared := rfl
  simp only [planOne, found] at h
  rw [yields_monad_bind] at h
  obtain ⟨told, t, ⟨⟩, rfl, htold, h⟩ := h
  obtain rfl := yields_observe.1 htold
  cases reported : Plan.omission? (r.stateOf exclusions statuses prepared) with
  | some reason =>
    rw [reported] at h
    obtain ⟨⟨⟩, t, rfl, rfl, rfl⟩ := h
    exact .omitted reason reported
  | none =>
  rw [reported] at h
  dsimp only at h
  by_cases needed : (r.stateOf exclusions statuses prepared).needsDelegation = true
  · rw [if_pos needed, yields_monad_bind] at h
    obtain ⟨asking, t, answer, rfl, asked, h⟩ := h
    cases answer with
    | error e =>
      obtain ⟨⟨⟩, t, rfl, rfl, rfl⟩ := h
      refine .unsigned asking ?_
      obtain rfl | ⟨rfl, -⟩ := secondarySignature_yields asked
      · exact List.forall_mem_singleton.2 ⟨_, _, e, rfl⟩
      · exact fun x hx => absurd hx List.not_mem_nil
    | ok signature =>
      obtain ⟨rfl, rfl⟩ := h
      obtain rfl | ⟨-, e, failed⟩ := secondarySignature_yields asked
      · have delegated := Planned.delegated signature reported needed
        rw [← representative_parties prepared.payoutRecipient needed] at delegated
        exact delegated
      · cases failed
  · rw [if_neg needed] at h
    obtain ⟨rfl, rfl⟩ := h
    exact .reported reported (by simpa using needed)

theorem omission?_eq_none {state : IdentityState} :
    Plan.omission? state = none ↔ state.isReported = true := by
  cases state <;> simp [Plan.omission?, IdentityState.isReported]

/-- An identity adds nothing to the plan, or its rows. -/
theorem Planned.empty_or_rows {t : List Exchange} {plan : Plan}
    (h : Planned r exclusions statuses prepared t plan) :
    plan = .empty ∨ ∃ secondary : Option EcdsaSignature,
      (r.stateOf exclusions statuses prepared).isReported = true ∧
      (r.stateOf exclusions statuses prepared).needsDelegation = secondary.isSome ∧
      (∀ signature ∈ secondary, ⟨.authorize prepared.registration r.signer, .ok signature⟩ ∈ t) ∧
      plan = r.rows exclusions statuses prepared secondary := by
  cases h with
  | omitted reason h => exact .inl rfl
  | unsigned asking h => exact .inl rfl
  | delegated signature reported needed =>
    refine .inr ⟨some signature, omission?_eq_none.1 reported, needed, fun s hs => ?_, rfl⟩
    obtain rfl : signature = s := Option.some.inj hs
    exact List.mem_cons_of_mem _ List.mem_cons_self
  | reported reported unneeded =>
    exact .inr ⟨none, omission?_eq_none.1 reported, unneeded, by simp, rfl⟩

/-! ## Rows of the batches -/

/-- The identity may be registered, by what was read of it. -/
structure Registrable (exclusions : ExclusionTable) (statuses : StatusSnapshot) (k : PublicKey) :
    Prop where
  unregistered : (statuses.registry.status k).isUnregistered = true
  undelegated : ∀ ledger ∈ statuses.delegation, (ledger.status k).isUnregistered = true
  admitted : (exclusions.entry k).registry = false

/-- The row may be delegated to `signer`, by what was read of its identity and by the answers to
`asked`; `batch` is sent to the registry first. -/
structure Delegable (signer : Address) (exclusions : ExclusionTable) (statuses : StatusSnapshot)
    (batch : List Registry.Entry) (asked : List Exchange) (row : Ledger.Entry) : Prop where
  undelegated : ∃ ledger, statuses.delegation = some ledger ∧
    (ledger.status row.pubkey).isUnregistered = true
  admitted : (exclusions.entry row.pubkey).nativeDelegation = false
  signed : ∃ registration : SignedRegistration, registration.pubkey = row.pubkey ∧
    ⟨.authorize registration signer, .ok row.signature⟩ ∈ asked
  backed :
    ((statuses.registry.status row.pubkey).isUnregistered = false ∧
        (statuses.registry.status row.pubkey).representative = signer ∧
        row.registeredInSameBatch = false) ∨
      (row.registeredInSameBatch = true ∧ ∃ first ∈ batch, first.pubkey = row.pubkey)

theorem Delegable.mono {signer : Address} {batch batch' : List Registry.Entry}
    {asked asked' : List Exchange} {row : Ledger.Entry} (hb : batch ⊆ batch') (ha : asked ⊆ asked')
    (h : Delegable signer exclusions statuses batch asked row) :
    Delegable signer exclusions statuses batch' asked' row where
  undelegated := h.undelegated
  admitted := h.admitted
  signed := h.signed.imp fun _ signed => ⟨signed.1, ha signed.2⟩
  backed := h.backed.imp_right fun ⟨flag, first, hf, same⟩ => ⟨flag, first, hb hf, same⟩

theorem Planned.registrable {t : List Exchange} {plan : Plan}
    (h : Planned r exclusions statuses prepared t plan) {row : Registry.Entry}
    (hrow : row ∈ plan.registryBatch) :
    row.pubkey = prepared.pubkey ∧ Registrable exclusions statuses row.pubkey := by
  obtain rfl | ⟨secondary, reported, needed, asked, rfl⟩ := h.empty_or_rows
  · cases hrow
  rw [registryBatch_rows] at hrow
  by_cases fresh : (r.stateOf exclusions statuses prepared).needsRegistration = true
  · rw [if_pos fresh] at hrow
    obtain rfl := List.mem_singleton.1 hrow
    obtain ⟨unregistered, undelegated, admitted⟩ := needsRegistration_classify.1 fresh
    refine ⟨rfl, unregistered, fun ledger hl => undelegated _ ?_, admitted⟩
    simp only [StatusSnapshot.identity, Option.mem_def.1 hl, Option.map_some, Option.mem_some_iff]
  · rw [if_neg fresh] at hrow
    cases hrow

theorem Planned.delegable {t : List Exchange} {plan : Plan}
    (h : Planned r exclusions statuses prepared t plan) {row : Ledger.Entry}
    (hrow : row ∈ plan.delegationBatch) :
    row.pubkey = prepared.pubkey ∧
      Delegable r.signer exclusions statuses plan.registryBatch t row := by
  obtain rfl | ⟨secondary, reported, needed, asked, rfl⟩ := h.empty_or_rows
  · cases hrow
  cases secondary with
  | none => cases hrow
  | some signature =>
  obtain rfl := List.mem_singleton.1 hrow
  obtain ⟨⟨l, hl, undelegated⟩, admitted, backed⟩ := needsDelegation_classify.1 needed
  obtain ⟨ledger, hledger, rfl⟩ := Option.map_eq_some_iff.1 hl
  refine ⟨rfl, ⟨ledger, hledger, undelegated⟩, admitted, ⟨_, rfl, asked signature rfl⟩, ?_⟩
  obtain fresh | ⟨registered, representative⟩ := backed
  · refine .inr ⟨fresh, ?_⟩
    rw [registryBatch_rows, stateOf, if_pos fresh]
    exact ⟨_, List.mem_singleton_self _, rfl⟩
  · refine .inl ⟨registered, representative, ?_⟩
    exact (needsRegistration_of_reported reported).trans registered

/-! ## Results before anything is sent -/

/-- Both authorities were read to know the identity. -/
def KnownToBoth (statuses : StatusSnapshot) (k : PublicKey) : Prop :=
  (statuses.registry.status k).isUnregistered = false ∧
    ∃ ledger, statuses.delegation = some ledger ∧ (ledger.status k).isUnregistered = false

/-- What a result tells before anything is sent, by what was read and what is planned. -/
structure Foretold (statuses : StatusSnapshot) (plan : Plan) (result : ReconciliationResult) :
    Prop where
  registry : result.registry =
    if (statuses.registry.status result.pubkey).isUnregistered then .notRequired
    else .alreadySatisfied
  registryRow : result.pubkey ∈ plan.registryBatch.map (·.pubkey) ↔
    (statuses.registry.status result.pubkey).isUnregistered = true
  registryPayout : ∀ row ∈ plan.registryBatch, row.pubkey = result.pubkey →
    row.payoutRecipient = result.payoutRecipient
  delegation :
    (result.delegation = .alreadySatisfied ∧ KnownToBoth statuses result.pubkey ∧
        result.pubkey ∉ plan.delegationBatch.map (·.pubkey)) ∨
      (result.delegation = .notRequired ∧
        ∀ ledger ∈ statuses.delegation, (ledger.status result.pubkey).isUnregistered = true)
  delegationPayout : ∀ row ∈ plan.delegationBatch, row.pubkey = result.pubkey →
    row.payoutRecipient = result.payoutRecipient
  signature : ∀ s, result.secondarySignature = some s ↔
    ∃ row ∈ plan.delegationBatch, row.pubkey = result.pubkey ∧ row.signature = s
  inStep : result.InStep

/-- What a result tells depends only on the rows of its own identity. -/
theorem Foretold.of_rows {plan plan' : Plan} {result : ReconciliationResult}
    (hr : ∀ row : Registry.Entry, row.pubkey = result.pubkey →
      (row ∈ plan'.registryBatch ↔ row ∈ plan.registryBatch))
    (hd : ∀ row : Ledger.Entry, row.pubkey = result.pubkey →
      (row ∈ plan'.delegationBatch ↔ row ∈ plan.delegationBatch))
    (h : Foretold statuses plan result) : Foretold statuses plan' result where
  registry := h.registry
  registryRow := by
    rw [← h.registryRow]
    simp only [List.mem_map]
    exact exists_congr fun row => and_congr_left fun same => hr row same
  registryPayout row hrow same := h.registryPayout row ((hr row same).1 hrow) same
  delegation := by
    refine h.delegation.imp_left fun ⟨status, known, absent⟩ => ⟨status, known, fun present => ?_⟩
    obtain ⟨row, hrow, same⟩ := List.mem_map.1 present
    exact absent (List.mem_map.2 ⟨row, (hd row same).1 hrow, same⟩)
  delegationPayout row hrow same := h.delegationPayout row ((hd row same).1 hrow) same
  signature s := by
    rw [h.signature s]
    refine exists_congr fun row => ⟨fun ⟨hrow, same, hs⟩ => ⟨(hd row same).2 hrow, same, hs⟩,
      fun ⟨hrow, same, hs⟩ => ⟨(hd row same).1 hrow, same, hs⟩⟩
  inStep := h.inStep

theorem results_rows (secondary : Option EcdsaSignature) :
    (r.rows exclusions statuses prepared secondary).results =
      [Plan.resultFor prepared (r.stateOf exclusions statuses prepared)
        (Plan.parties r.signer prepared.payoutRecipient (r.stateOf exclusions statuses prepared)).1
        (Plan.parties r.signer prepared.payoutRecipient (r.stateOf exclusions statuses prepared)).2
        secondary] := rfl

theorem delegationBatch_rows (secondary : Option EcdsaSignature) :
    (r.rows exclusions statuses prepared secondary).delegationBatch =
      secondary.toList.map fun signature =>
        ⟨prepared.pubkey,
          (Plan.parties r.signer prepared.payoutRecipient
            (r.stateOf exclusions statuses prepared)).2,
          signature, (r.stateOf exclusions statuses prepared).needsRegistration⟩ := by
  cases secondary <;> rfl

theorem knownToBoth_iff :
    KnownToBoth statuses prepared.pubkey ↔ ∃ representative payout,
      r.stateOf exclusions statuses prepared = .fullyDelegated representative payout := by
  rw [stateOf, fullyDelegated_classify]
  refine and_congr_right fun _ => ⟨?_, ?_⟩
  · rintro ⟨ledger, hl, known⟩
    exact ⟨_, Option.map_eq_some_iff.2 ⟨ledger, hl, rfl⟩, known⟩
  · rintro ⟨_, hl, known⟩
    obtain ⟨ledger, hledger, rfl⟩ := Option.map_eq_some_iff.1 hl
    exact ⟨ledger, hledger, known⟩

theorem unknown_of_reported
    (reported : (r.stateOf exclusions statuses prepared).isReported = true)
    (undone : ¬KnownToBoth statuses prepared.pubkey) :
    ∀ ledger ∈ statuses.delegation, (ledger.status prepared.pubkey).isUnregistered = true := by
  intro ledger hl
  cases known : (ledger.status prepared.pubkey).isUnregistered with
  | true => rfl
  | false =>
    have fresh := needsRegistration_of_reported reported
    cases hr : (statuses.identity prepared.pubkey).registry.isUnregistered with
    | true =>
      have undelegated := (needsRegistration_classify.1 (fresh.trans hr)).2.1
      simp only [StatusSnapshot.identity, Option.mem_def.1 hl, Option.map_some,
        Option.mem_some_iff, forall_eq'] at undelegated
      exact known.symm.trans undelegated
    | false => exact absurd ⟨hr, ledger, hl, known⟩ undone

/-- The ledger's part of what a result tells. -/
theorem delegation_resultFor {secondary : Option EcdsaSignature}
    (reported : (r.stateOf exclusions statuses prepared).isReported = true)
    (needed : (r.stateOf exclusions statuses prepared).needsDelegation = secondary.isSome)
    (representative payout : Address) :
    ((Plan.resultFor prepared (r.stateOf exclusions statuses prepared) representative payout
          secondary).delegation = .alreadySatisfied ∧
        KnownToBoth statuses prepared.pubkey ∧ secondary = none) ∨
      ((Plan.resultFor prepared (r.stateOf exclusions statuses prepared) representative payout
          secondary).delegation = .notRequired ∧
        ∀ ledger ∈ statuses.delegation, (ledger.status prepared.pubkey).isUnregistered = true) := by
  by_cases done : KnownToBoth statuses prepared.pubkey
  · obtain ⟨onRecord, recipient, state⟩ := knownToBoth_iff.1 done
    rw [state] at needed ⊢
    cases secondary with
    | some signature => cases needed
    | none => exact .inl ⟨rfl, done, rfl⟩
  · exact .inr ⟨Plan.resultFor_delegation _ _ _ _ (mt knownToBoth_iff.2 done),
      unknown_of_reported reported done⟩

theorem Planned.foretold {t : List Exchange} {plan : Plan}
    (h : Planned r exclusions statuses prepared t plan) {result : ReconciliationResult}
    (hresult : result ∈ plan.results) :
    result.pubkey = prepared.pubkey ∧ Foretold statuses plan result := by
  obtain rfl | ⟨secondary, reported, needed, asked, rfl⟩ := h.empty_or_rows
  · cases hresult
  rw [results_rows] at hresult
  obtain rfl := List.mem_singleton.1 hresult
  have fresh : (r.stateOf exclusions statuses prepared).needsRegistration =
      (statuses.registry.status prepared.pubkey).isUnregistered :=
    needsRegistration_of_reported reported
  refine ⟨Plan.resultFor_pubkey .., ?_⟩
  constructor
  · rw [Plan.resultFor_registry, fresh, Plan.resultFor_pubkey]
  · rw [registryBatch_rows, fresh, Plan.resultFor_pubkey]
    cases (statuses.registry.status prepared.pubkey).isUnregistered <;> simp
  · intro row hrow same
    rw [registryBatch_rows] at hrow
    split at hrow
    · obtain rfl := List.mem_singleton.1 hrow
      rw [Plan.resultFor_payoutRecipient]
    · cases hrow
  · rw [Plan.resultFor_pubkey, delegationBatch_rows]
    refine (delegation_resultFor reported needed _ _).imp_left ?_
    rintro ⟨status, known, rfl⟩
    exact ⟨status, known, List.not_mem_nil⟩
  · intro row hrow same
    rw [delegationBatch_rows] at hrow
    obtain ⟨signature, -, rfl⟩ := List.mem_map.1 hrow
    rw [Plan.resultFor_payoutRecipient]
  · intro s
    rw [delegationBatch_rows, Plan.resultFor_secondarySignature, Plan.resultFor_pubkey]
    cases secondary <;> simp
  · exact Plan.resultFor_inStep ..

/-! ## All identities -/

/-- One identity with what was asked for it and what it added to the plan. -/
structure PlannedIdentity (r : Reconciler) (exclusions : ExclusionTable)
    (statuses : StatusSnapshot) where
  prepared : PreparedRegistration
  exchanges : List Exchange
  plan : Plan
  planned : Planned r exclusions statuses prepared exchanges plan

/-- The plan of a chunk is made up of its identities' plans, one after another. -/
theorem reconcile_parts {chunk : List PreparedRegistration} {t : List Exchange} {plan : Plan}
    (h : (r.reconcile exclusions statuses chunk).Yields t plan) :
    ∃ parts : List (PlannedIdentity r exclusions statuses),
      parts.map (·.prepared) = chunk ∧
      t = parts.flatMap (·.exchanges) ∧
      plan.results = parts.flatMap (·.plan.results) ∧
      plan.registryBatch = parts.flatMap (·.plan.registryBatch) ∧
      plan.delegationBatch = parts.flatMap (·.plan.delegationBatch) := by
  induction chunk generalizing t plan with
  | nil =>
    obtain ⟨rfl, rfl⟩ := h
    exact ⟨[], rfl, rfl, rfl, rfl, rfl⟩
  | cons prepared rest ih =>
    rw [reconcile, yields_monad_bind] at h
    obtain ⟨first, t, plan₁, rfl, h₁, h⟩ := h
    rw [yields_monad_bind] at h
    obtain ⟨others, t, plan₂, rfl, h₂, rfl, rfl⟩ := h
    obtain ⟨parts, rfl, rfl, results, registry, delegation⟩ := ih h₂
    refine ⟨⟨prepared, first, plan₁, planOne_planned h₁⟩ :: parts, rfl, by simp, ?_, ?_, ?_⟩
    · simp only [List.flatMap_cons, ← results]
      rfl
    · simp only [List.flatMap_cons, ← registry]
      rfl
    · simp only [List.flatMap_cons, ← delegation]
      rfl

/-- Rows stand only for identities that were read to be due, and admitted. -/
theorem reconcile_rows {chunk : List PreparedRegistration} {t : List Exchange} {plan : Plan}
    (h : (r.reconcile exclusions statuses chunk).Yields t plan) :
    (∀ row ∈ plan.registryBatch, Registrable exclusions statuses row.pubkey) ∧
      ∀ row ∈ plan.delegationBatch,
        Delegable r.signer exclusions statuses plan.registryBatch t row := by
  obtain ⟨parts, -, rfl, -, registry, delegation⟩ := reconcile_parts h
  rw [registry, delegation]
  constructor
  · intro row hrow
    obtain ⟨part, hpart, hrow⟩ := List.mem_flatMap.1 hrow
    exact (part.planned.registrable hrow).2
  · intro row hrow
    obtain ⟨part, hpart, hrow⟩ := List.mem_flatMap.1 hrow
    exact (part.planned.delegable hrow).2.mono
      (fun first hfirst => List.mem_flatMap.2 ⟨part, hpart, hfirst⟩)
      (fun x hx => List.mem_flatMap.2 ⟨part, hpart, hx⟩)

/-- Where each identity comes once, every result tells what was read and what is planned. -/
theorem reconcile_foretold {chunk : List PreparedRegistration} {t : List Exchange} {plan : Plan}
    (h : (r.reconcile exclusions statuses chunk).Yields t plan)
    (nodup : (chunk.map (·.pubkey)).Nodup) :
    ∀ result ∈ plan.results, Foretold statuses plan result := by
  obtain ⟨parts, rfl, -, results, registry, delegation⟩ := reconcile_parts h
  intro result hresult
  rw [results] at hresult
  obtain ⟨part, hpart, hresult⟩ := List.mem_flatMap.1 hresult
  obtain ⟨same, foretold⟩ := part.planned.foretold hresult
  rw [List.map_map] at nodup
  -- identities are distinct, so the rows of a result come from its own part alone
  have alone {other : PlannedIdentity r exclusions statuses} (hother : other ∈ parts)
      (key : other.prepared.pubkey = result.pubkey) : other = part :=
    List.inj_on_of_nodup_map nodup hother hpart (key.trans same)
  refine foretold.of_rows ?_ ?_
  · intro row key
    rw [registry, List.mem_flatMap]
    refine ⟨fun ⟨other, hother, hrow⟩ => ?_, fun hrow => ⟨part, hpart, hrow⟩⟩
    obtain rfl := alone hother ((other.planned.registrable hrow).1.symm.trans key)
    exact hrow
  · intro row key
    rw [delegation, List.mem_flatMap]
    refine ⟨fun ⟨other, hother, hrow⟩ => ?_, fun hrow => ⟨part, hpart, hrow⟩⟩
    obtain rfl := alone hother ((other.planned.delegable hrow).1.symm.trans key)
    exact hrow

end Reconciler

end Registrar
