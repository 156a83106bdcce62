import Registrar.Engine.Plan

/-! What the state of an identity says about its statuses and exclusions. -/
namespace Registrar
set_option autoImplicit false

variable {status : IdentityStatus} {exclusion : Exclusion} {signer : Address}

/-! ## The two halves of the classification -/

theorem classify_of_unregistered (h : status.registry.isUnregistered = true) :
    classify status exclusion signer = classifyFresh status.delegation exclusion := by
  rw [classify, if_pos h]

theorem classify_of_registered (h : status.registry.isUnregistered = false) :
    classify status exclusion signer =
      classifyRegistered status.registry status.delegation exclusion signer := by
  rw [classify, h]
  rfl

theorem needsRegistration_classifyFresh {ledger : Option AuthorityStatus} :
    (classifyFresh ledger exclusion).needsRegistration = true ↔
      (∀ l ∈ ledger, l.isUnregistered = true) ∧ exclusion.registry = false := by
  unfold classifyFresh
  cases ledger with
  | none => cases hx : exclusion.registry <;> simp [IdentityState.needsRegistration]
  | some l =>
    cases hl : l.isUnregistered <;> cases hx : exclusion.registry <;>
      simp [IdentityState.needsRegistration, hl]

theorem needsRegistration_classifyRegistered (registry : AuthorityStatus)
    (ledger : Option AuthorityStatus) (exclusion : Exclusion) (signer : Address) :
    (classifyRegistered registry ledger exclusion signer).needsRegistration = false := by
  unfold classifyRegistered
  cases ledger with
  | none => rfl
  | some l =>
    dsimp only
    split
    · rfl
    split
    · rfl
    split <;> rfl

theorem needsDelegation_classifyFresh {ledger : Option AuthorityStatus} :
    (classifyFresh ledger exclusion).needsDelegation = true ↔
      (∃ l, ledger = some l ∧ l.isUnregistered = true) ∧ exclusion.nativeDelegation = false ∧
        exclusion.registry = false := by
  unfold classifyFresh
  cases ledger with
  | none => cases hx : exclusion.registry <;> simp [IdentityState.needsDelegation]
  | some l =>
    cases hl : l.isUnregistered <;> cases hx : exclusion.registry <;>
      simp [IdentityState.needsDelegation, hl]

theorem needsDelegation_classifyRegistered {registry : AuthorityStatus}
    {ledger : Option AuthorityStatus} :
    (classifyRegistered registry ledger exclusion signer).needsDelegation = true ↔
      (∃ l, ledger = some l ∧ l.isUnregistered = true) ∧ exclusion.nativeDelegation = false ∧
        registry.representative = signer := by
  unfold classifyRegistered
  cases ledger with
  | none => simp [IdentityState.needsDelegation]
  | some l =>
    cases hl : l.isUnregistered <;> cases hx : exclusion.nativeDelegation <;>
      by_cases hs : registry.representative = signer <;>
      simp [IdentityState.needsDelegation, hl, hs]

/-! ## What a state calls for -/

/-- Exactly the identities that neither authority knows and that are not excluded are registered. -/
theorem needsRegistration_classify :
    (classify status exclusion signer).needsRegistration = true ↔
      status.registry.isUnregistered = true ∧
        (∀ l ∈ status.delegation, l.isUnregistered = true) ∧ exclusion.registry = false := by
  cases hr : status.registry.isUnregistered with
  | true => simp [classify_of_unregistered hr, needsRegistration_classifyFresh]
  | false => simp [classify_of_registered hr, needsRegistration_classifyRegistered]

/-- Exactly the identities that the ledger does not know and that are not excluded from it are
delegated, when they are to be registered or are registered under the signer. -/
theorem needsDelegation_classify :
    (classify status exclusion signer).needsDelegation = true ↔
      (∃ l, status.delegation = some l ∧ l.isUnregistered = true) ∧
        exclusion.nativeDelegation = false ∧
        ((classify status exclusion signer).needsRegistration = true ∨
          status.registry.isUnregistered = false ∧ status.registry.representative = signer) := by
  cases hr : status.registry.isUnregistered with
  | true =>
    rw [classify_of_unregistered hr, needsDelegation_classifyFresh, needsRegistration_classifyFresh]
    constructor
    · rintro ⟨⟨l, hl, unknown⟩, hd, hx⟩
      refine ⟨⟨l, hl, unknown⟩, hd, .inl ⟨fun l' hl' => ?_, hx⟩⟩
      rw [hl] at hl'
      exact Option.some.inj hl' ▸ unknown
    · rintro ⟨known, hd, ⟨-, hx⟩ | ⟨h, -⟩⟩
      · exact ⟨known, hd, hx⟩
      · cases h
  | false =>
    rw [classify_of_registered hr, needsDelegation_classifyRegistered,
      needsRegistration_classifyRegistered]
    simp

/-- A reported identity is registered exactly when the registry does not know it. -/
theorem needsRegistration_of_reported (h : (classify status exclusion signer).isReported = true) :
    (classify status exclusion signer).needsRegistration = status.registry.isUnregistered := by
  cases hr : status.registry.isUnregistered with
  | true =>
    rw [classify_of_unregistered hr] at h ⊢
    unfold classifyFresh at h ⊢
    split at h
    · cases h
    split at h
    · cases h
    · rename_i hl hx
      rw [if_neg hl, if_neg hx]
      rfl
  | false => rw [classify_of_registered hr, needsRegistration_classifyRegistered]

/-- Exactly the identities that both authorities know are done with. -/
theorem fullyDelegated_classify :
    (∃ representative payout,
        classify status exclusion signer = .fullyDelegated representative payout) ↔
      status.registry.isUnregistered = false ∧
        ∃ l, status.delegation = some l ∧ l.isUnregistered = false := by
  cases hr : status.registry.isUnregistered with
  | true =>
    rw [classify_of_unregistered hr]
    unfold classifyFresh
    split
    · simp
    split <;> simp
  | false =>
    rw [classify_of_registered hr]
    unfold classifyRegistered
    cases status.delegation with
    | none => simp
    | some l =>
      cases hl : l.isUnregistered <;> cases hx : exclusion.nativeDelegation <;>
        by_cases hs : status.registry.representative = signer <;> simp [hl, hs]

theorem classify_of_delegated (hr : status.registry.isUnregistered = false) {l : AuthorityStatus}
    (hl : status.delegation = some l) (known : l.isUnregistered = false) :
    classify status exclusion signer =
      .fullyDelegated status.registry.representative status.registry.payoutRecipient := by
  simp [classify_of_registered hr, classifyRegistered, hl, known]

theorem classify_of_undelegated (hr : status.registry.isUnregistered = false)
    (hl : ∀ l ∈ status.delegation, l.isUnregistered = true)
    (hd : (status.delegation.isSome && !exclusion.nativeDelegation) = false) :
    classify status exclusion signer =
      .registryOnly status.registry.representative status.registry.payoutRecipient false := by
  rw [classify_of_registered hr]
  unfold classifyRegistered
  cases hs : status.delegation with
  | none => rfl
  | some l =>
    have unknown := hl l hs
    simp only [hs, Option.isSome_some, Bool.true_and, Bool.not_eq_false'] at hd
    simp [unknown, hd]

theorem of_classify_unregistered {delegate : Bool}
    (h : classify status exclusion signer = .unregistered delegate) :
    (∀ l ∈ status.delegation, l.isUnregistered = true) ∧
      (status.delegation.isSome && !exclusion.nativeDelegation) = delegate := by
  have fresh : (classify status exclusion signer).needsRegistration = true := by
    rw [h]
    rfl
  obtain ⟨hr, hl, hx⟩ := needsRegistration_classify.1 fresh
  refine ⟨hl, ?_⟩
  have known : (status.delegation.any fun l => !l.isUnregistered) = false := by
    cases hs : status.delegation with
    | none => rfl
    | some l => simp [hl l hs]
  rw [classify_of_unregistered hr, classifyFresh, known, hx] at h
  simpa using h

/-- Who is found at the registry is told with the parties on record. -/
theorem of_classify_registryOnly {representative payout : Address} {delegate : Bool}
    (h : classify status exclusion signer = .registryOnly representative payout delegate) :
    status.registry.isUnregistered = false ∧ status.registry.representative = representative ∧
      status.registry.payoutRecipient = payout := by
  cases hr : status.registry.isUnregistered with
  | true =>
    rw [classify_of_unregistered hr, classifyFresh] at h
    split at h
    · cases h
    split at h <;> cases h
  | false =>
    rw [classify_of_registered hr] at h
    unfold classifyRegistered at h
    refine ⟨rfl, ?_⟩
    split at h
    · cases h
      exact ⟨rfl, rfl⟩
    split at h
    · cases h
    split at h
    · cases h
      exact ⟨rfl, rfl⟩
    split at h
    · cases h
    · cases h
      exact ⟨rfl, rfl⟩

/-- An identity is delegated to the signer, and to nobody else. -/
theorem representative_parties (intended : Address)
    (h : (classify status exclusion signer).needsDelegation = true) :
    (Plan.parties signer intended (classify status exclusion signer)).1 = signer := by
  cases hr : status.registry.isUnregistered with
  | true =>
    rw [classify_of_unregistered hr]
    unfold classifyFresh
    split
    · rfl
    split <;> rfl
  | false =>
    rw [classify_of_registered hr] at h ⊢
    obtain ⟨⟨l, hl, unknown⟩, hd, hs⟩ := needsDelegation_classifyRegistered.1 h
    simp [classifyRegistered, hl, unknown, hd, hs, Plan.parties]

end Registrar
