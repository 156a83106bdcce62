import Registrar.Engine.Basic
import Registrar.Proofs.Planning

/-! Signers that always answer alike. With them, what one identity adds to the plan is a function of
its statuses, its exclusions and its intent, and the plan of a chunk is made up of nothing else. -/
namespace Registrar
set_option autoImplicit false

open Program

/-! ## Plans put together -/

def Plan.flat (parts : List Plan) : Plan :=
  ⟨parts.flatMap (·.results), parts.flatMap (·.registryBatch), parts.flatMap (·.delegationBatch)⟩

theorem Plan.flat_cons (p : Plan) (parts : List Plan) : flat (p :: parts) = p ++ flat parts := rfl

theorem Plan.flat_append (parts others : List Plan) :
    flat (parts ++ others) = flat parts ++ flat others := by
  rw [flat, List.flatMap_append, List.flatMap_append, List.flatMap_append]
  rfl

/-- Parts that are left out count as empty ones. -/
theorem Plan.flat_filterMap {α β : Type} (f : α → Option β) (g : β → Plan) (items : List α) :
    flat ((items.filterMap f).map g) = flat (items.map fun item => (f item).elim .empty g) := by
  induction items with
  | nil => rfl
  | cons item rest ih =>
    rw [List.filterMap_cons, List.map_cons, flat_cons]
    cases f item with
    | none => exact ih
    | some b => exact congrArg (g b ++ ·) ih

/-! ## Reports of omissions -/

/-- The identity that the observer is told is left out, and why. -/
def Exchange.omission? (x : Exchange) : Option (PublicKey × Omission) :=
  match x.question with
  | .observe (.omitted k reason) => some (k, reason)
  | _ => none

def omitted (t : List Exchange) : List (PublicKey × Omission) :=
  t.filterMap (·.omission?)

theorem omitted_append (t u : List Exchange) : omitted (t ++ u) = omitted t ++ omitted u :=
  List.filterMap_append

/-! ## Signers -/

/-- The recipient that is to replace the one of the intent, by what was read of its identity. -/
def Engine.overrideAt (e : Engine) (exclusion : Exclusion) (status : IdentityStatus)
    (intent : SignedRegistration) : Option Address :=
  match e.settings.payoutOverride with
  | none => none
  | some payout =>
    if payout = intent.message.feeRecipient ||
        !(status.registry.isUnregistered && !exclusion.registry) then none
    else some payout

theorem Engine.overrideFor_eq (e : Engine) (exclusions : ExclusionTable)
    (statuses : StatusSnapshot) (intent : SignedRegistration) :
    e.overrideFor exclusions statuses intent =
      e.overrideAt (exclusions.entry intent.pubkey) (statuses.identity intent.pubkey) intent := rfl

/-- What the signers answer to each question. -/
structure Signers where
  listing : Except Error (List PublicKey)
  sign : RegistrationMessage → Except Error SignedRegistration
  authorize : SignedRegistration → Address → Except Error EcdsaSignature

namespace Signers

/-- Whatever the signers were asked in the exchanges, they answered so. -/
structure Answer (o : Signers) (t : List Exchange) : Prop where
  listing : ∀ answer, ⟨.listKeys, answer⟩ ∈ t → answer = o.listing
  sign : ∀ m answer, ⟨.signRegistration m, answer⟩ ∈ t → answer = o.sign m
  authorize : ∀ r representative answer, ⟨.authorize r representative, answer⟩ ∈ t →
    answer = o.authorize r representative

theorem Answer.mono {o : Signers} {t t' : List Exchange} (h : o.Answer t') (ht : t ⊆ t') :
    o.Answer t where
  listing answer hx := h.listing answer (ht hx)
  sign m answer hx := h.sign m answer (ht hx)
  authorize r representative answer hx := h.authorize r representative answer (ht hx)

/-- The keys that the remote signer holds; none when it fails to list them. -/
def keys (o : Signers) : List PublicKey :=
  match o.listing with
  | .ok keys => keys
  | .error _ => []

/-! ## One identity -/

/-- The intent with its message signed anew for another recipient. -/
def resigned (o : Signers) (intent : SignedRegistration) (payout : Address) :
    Option PreparedRegistration :=
  match o.sign { intent.message with feeRecipient := payout } with
  | .ok signed =>
    if signed.message = { intent.message with feeRecipient := payout } then
      some ⟨signed, payout, .overrideResigned⟩
    else none
  | .error _ => none

/-- The intent as the payout policy leaves it; `none` when it is dropped. -/
def prepared (o : Signers) (e : Engine) (exclusion : Exclusion) (status : IdentityStatus)
    (intent : SignedRegistration) : Option PreparedRegistration :=
  match e.overrideAt exclusion status intent with
  | none => some (.unchanged intent)
  | some payout =>
    if !e.canResign then some ⟨intent, payout, .override⟩
    else if o.keys.contains intent.pubkey then o.resigned intent payout
    else some (.unchanged intent)

def secondary (o : Signers) (r : Reconciler) (prepared : PreparedRegistration)
    (representative : Address) : Except Error EcdsaSignature :=
  if r.canAuthorize then o.authorize prepared.registration representative
  else .error (.secondarySignature prepared.pubkey.toHex "no secondary signer configured")

/-- What a prepared intent adds to the plan when its identity is found in the given state. -/
def planned (o : Signers) (r : Reconciler) (prepared : PreparedRegistration)
    (state : IdentityState) : Plan :=
  match Plan.omission? state with
  | some _ => .empty
  | none =>
    let (representative, payout) := Plan.parties r.signer prepared.payoutRecipient state
    if state.needsDelegation then
      match o.secondary r prepared representative with
      | .error _ => .empty
      | .ok signature => Plan.rowsFor prepared state representative payout (some signature)
    else Plan.rowsFor prepared state representative payout none

/-- What is reported of an intent that is dropped. -/
def dropped (o : Signers) (e : Engine) (exclusion : Exclusion) (status : IdentityStatus)
    (intent : SignedRegistration) : List (PublicKey × Omission) :=
  match o.prepared e exclusion status intent with
  | none => [(intent.pubkey, .resign)]
  | some _ => []

/-- What is reported of a prepared intent that is left out of the plan. -/
def passedOver (o : Signers) (r : Reconciler) (prepared : PreparedRegistration)
    (state : IdentityState) : List (PublicKey × Omission) :=
  match Plan.omission? state with
  | some reason => [(prepared.pubkey, reason)]
  | none =>
    if state.needsDelegation then
      match o.secondary r prepared (Plan.parties r.signer prepared.payoutRecipient state).1 with
      | .error _ => [(prepared.pubkey, .secondarySignature)]
      | .ok _ => []
    else []

/-- What an identity adds to the plan. -/
def outcome (o : Signers) (e : Engine) (exclusion : Exclusion) (status : IdentityStatus)
    (intent : SignedRegistration) : Plan :=
  match o.prepared e exclusion status intent with
  | none => .empty
  | some prepared => o.planned e.reconciler prepared (classify status exclusion e.signer)

variable {o : Signers} {e : Engine} {exclusions : ExclusionTable} {statuses : StatusSnapshot}
  {intent : SignedRegistration} {t : List Exchange}

theorem pubkey_of_prepared {exclusion : Exclusion} {status : IdentityStatus}
    {prepared : PreparedRegistration} (h : o.prepared e exclusion status intent = some prepared) :
    prepared.pubkey = intent.pubkey := by
  unfold Signers.prepared at h
  split at h
  · cases h
    rfl
  split at h
  · cases h
    rfl
  split at h
  · unfold resigned at h
    split at h
    · split at h
      · rename_i signed _ same
        cases h
        rw [PreparedRegistration.pubkey, SignedRegistration.pubkey, same]
        rfl
      · cases h
    · cases h
  · cases h
    rfl

/-! ## What the engine asks for and gets -/

theorem resign_yields {payout : Address} {prepared : Option PreparedRegistration}
    (h : (Engine.resign intent payout).Yields t prepared) (answer : o.Answer t) :
    prepared = o.resigned intent payout ∧
      omitted t = if prepared.isNone then [(intent.pubkey, .resign)] else [] := by
  unfold Engine.resign at h
  obtain ⟨signing, t, rfl, h⟩ := h
  have signing_eq := answer.sign _ signing List.mem_cons_self
  rw [resigned, ← signing_eq]
  cases signing with
  | error err =>
    obtain ⟨⟨⟩, t, rfl, rfl, rfl⟩ := h
    exact ⟨rfl, rfl⟩
  | ok signed =>
    simp only [Program.bind] at h
    dsimp only
    split at h
    · rename_i same
      obtain ⟨rfl, rfl⟩ := h
      rw [if_pos same]
      exact ⟨rfl, rfl⟩
    · rename_i other
      obtain ⟨⟨⟩, t, rfl, rfl, rfl⟩ := h
      rw [if_neg other]
      exact ⟨rfl, rfl⟩

theorem listed_yields {listing : Engine.Listing} {keys : List PublicKey}
    (h : (Engine.listed listing).Yields t keys) (answer : o.Answer t)
    (known : ∀ keys ∈ listing, keys = o.keys) : keys = o.keys ∧ omitted t = [] := by
  unfold Engine.listed at h
  cases listing with
  | some keys' =>
    obtain ⟨rfl, rfl⟩ := h
    exact ⟨known _ rfl, rfl⟩
  | none =>
    obtain ⟨listing, t, rfl, h⟩ := h
    have listing_eq := answer.listing listing List.mem_cons_self
    rw [Signers.keys, ← listing_eq]
    cases listing with
    | ok keys' =>
      obtain ⟨rfl, rfl⟩ := h
      exact ⟨rfl, rfl⟩
    | error err =>
      obtain ⟨rfl, rfl⟩ := h
      exact ⟨rfl, rfl⟩

theorem prepareOne_yields {listing listing' : Engine.Listing}
    {prepared : Option PreparedRegistration}
    (h : (e.prepareOne exclusions statuses intent listing).Yields t (prepared, listing'))
    (answer : o.Answer t) (known : ∀ keys ∈ listing, keys = o.keys) :
    prepared = o.prepared e (exclusions.entry intent.pubkey) (statuses.identity intent.pubkey)
        intent ∧ (∀ keys ∈ listing', keys = o.keys) ∧
      omitted t = o.dropped e (exclusions.entry intent.pubkey) (statuses.identity intent.pubkey)
        intent := by
  unfold Engine.prepareOne at h
  rw [Engine.overrideFor_eq] at h
  rw [dropped, Signers.prepared]
  cases replaced : e.overrideAt (exclusions.entry intent.pubkey)
    (statuses.identity intent.pubkey) intent with
  | none =>
    rw [replaced] at h
    obtain ⟨rfl, h⟩ := h
    cases h
    exact ⟨rfl, known, rfl⟩
  | some payout =>
  rw [replaced] at h
  dsimp only at h ⊢
  split at h
  · rename_i unable
    obtain ⟨rfl, h⟩ := h
    cases h
    rw [if_pos unable]
    exact ⟨rfl, known, rfl⟩
  rename_i able
  rw [yields_monad_bind] at h
  obtain ⟨u, v, keys, rfl, listed, h⟩ := h
  obtain ⟨rfl, quiet⟩ := listed_yields listed (answer.mono (List.subset_append_left ..)) known
  rw [if_neg able, omitted_append, quiet, List.nil_append]
  have list : ∀ keys ∈ some o.keys, keys = o.keys := fun keys h => (Option.some.inj h).symm
  split at h
  · rename_i held
    rw [yields_monad_bind] at h
    obtain ⟨v, w, signed, rfl, resigning, rfl, h⟩ := h
    cases h
    obtain ⟨same, reports⟩ := resign_yields resigning (answer.mono fun x hx =>
      List.mem_append_right _ (List.mem_append_left _ hx))
    rw [if_pos held, List.append_nil, reports, ← same]
    refine ⟨rfl, list, ?_⟩
    cases prepared <;> rfl
  · rename_i foreign
    obtain ⟨rfl, h⟩ := h
    cases h
    rw [if_neg foreign]
    exact ⟨rfl, list, rfl⟩

theorem prepareFrom_yields {chunk : List SignedRegistration} {listing : Engine.Listing}
    {ready : List PreparedRegistration}
    (h : (e.prepareFrom exclusions statuses chunk listing).Yields t ready) (answer : o.Answer t)
    (known : ∀ keys ∈ listing, keys = o.keys) :
    (ready = chunk.filterMap fun intent =>
      o.prepared e (exclusions.entry intent.pubkey) (statuses.identity intent.pubkey) intent) ∧
    omitted t = chunk.flatMap fun intent =>
      o.dropped e (exclusions.entry intent.pubkey) (statuses.identity intent.pubkey) intent := by
  induction chunk generalizing listing t ready with
  | nil =>
    obtain ⟨rfl, rfl⟩ := h
    exact ⟨rfl, rfl⟩
  | cons intent rest ih =>
    rw [Engine.prepareFrom, yields_monad_bind] at h
    obtain ⟨u, v, ⟨first, listing'⟩, rfl, h₁, h⟩ := h
    dsimp only at h
    rw [yields_monad_bind] at h
    obtain ⟨v, w, others, rfl, h₂, rfl, rfl⟩ := h
    obtain ⟨rfl, known', reports⟩ :=
      prepareOne_yields h₁ (answer.mono (List.subset_append_left ..)) known
    obtain ⟨rest_eq, others_reports⟩ := ih h₂ (answer.mono fun x hx =>
      List.mem_append_right _ (List.mem_append_left _ hx)) known'
    rw [List.append_nil, omitted_append, reports, others_reports, List.flatMap_cons, rest_eq,
      List.filterMap_cons]
    refine ⟨?_, rfl⟩
    cases o.prepared e (exclusions.entry intent.pubkey) (statuses.identity intent.pubkey)
      intent <;> rfl

theorem planOne_yields {r : Reconciler} {prepared : PreparedRegistration} {plan : Plan}
    (h : (r.planOne exclusions statuses prepared).Yields t plan) (answer : o.Answer t) :
    plan = o.planned r prepared (r.stateOf exclusions statuses prepared) ∧
      omitted t = o.passedOver r prepared (r.stateOf exclusions statuses prepared) := by
  have found : classify (statuses.identity prepared.pubkey) (exclusions.entry prepared.pubkey)
    r.signer = r.stateOf exclusions statuses prepared := rfl
  simp only [Reconciler.planOne, found] at h
  obtain ⟨⟨⟩, t, rfl, h⟩ := h
  rw [planned, passedOver]
  dsimp only [Program.bind] at h ⊢
  cases left : Plan.omission? (r.stateOf exclusions statuses prepared) with
  | some reason =>
    rw [left] at h
    obtain ⟨⟨⟩, t, rfl, rfl, rfl⟩ := h
    exact ⟨rfl, rfl⟩
  | none =>
  rw [left] at h
  dsimp only at h ⊢
  split at h
  · rename_i needed
    rw [if_pos needed, if_pos needed]
    obtain ⟨u, v, authorized, rfl, asked, h⟩ := yields_bind.1 h
    obtain ⟨authorized_eq, quiet⟩ : authorized = o.secondary r prepared (Plan.parties r.signer
        prepared.payoutRecipient (r.stateOf exclusions statuses prepared)).1 ∧ omitted u = [] := by
      unfold Reconciler.secondarySignature at asked
      rw [secondary]
      split at asked
      · rename_i able
        obtain rfl := yields_request.1 asked
        rw [if_pos able]
        exact ⟨answer.authorize _ _ _ (by simp), rfl⟩
      · rename_i unable
        obtain ⟨rfl, rfl⟩ := asked
        rw [if_neg unable]
        exact ⟨rfl, rfl⟩
    have classified : omitted (⟨.observe (.classified prepared.pubkey
        (r.stateOf exclusions statuses prepared)), ()⟩ :: (u ++ v)) = omitted v := by
      rw [← List.singleton_append, omitted_append, omitted_append, quiet]
      rfl
    rw [← authorized_eq, classified]
    cases authorized with
    | error err =>
      obtain ⟨⟨⟩, t, rfl, rfl, rfl⟩ := h
      exact ⟨rfl, rfl⟩
    | ok signature =>
      obtain ⟨rfl, rfl⟩ := h
      exact ⟨rfl, rfl⟩
  · rename_i unneeded
    obtain ⟨rfl, rfl⟩ := h
    rw [if_neg unneeded, if_neg unneeded]
    exact ⟨rfl, rfl⟩

theorem reconcile_yields {r : Reconciler} {ready : List PreparedRegistration} {plan : Plan}
    (h : (r.reconcile exclusions statuses ready).Yields t plan) (answer : o.Answer t) :
    plan = Plan.flat (ready.map fun prepared =>
      o.planned r prepared (r.stateOf exclusions statuses prepared)) ∧
    omitted t = ready.flatMap fun prepared =>
      o.passedOver r prepared (r.stateOf exclusions statuses prepared) := by
  induction ready generalizing t plan with
  | nil =>
    obtain ⟨rfl, rfl⟩ := h
    exact ⟨rfl, rfl⟩
  | cons prepared rest ih =>
    rw [Reconciler.reconcile, yields_monad_bind] at h
    obtain ⟨u, v, first, rfl, h₁, h⟩ := h
    rw [yields_monad_bind] at h
    obtain ⟨v, w, others, rfl, h₂, rfl, rfl⟩ := h
    obtain ⟨first_eq, reports⟩ := planOne_yields h₁ (answer.mono (List.subset_append_left ..))
    obtain ⟨others_eq, others_reports⟩ :=
      ih h₂ (answer.mono fun x hx => List.mem_append_right _ (List.mem_append_left _ hx))
    rw [List.map_cons, Plan.flat_cons, ← first_eq, ← others_eq, List.append_nil, omitted_append,
      reports, others_reports, List.flatMap_cons]
    exact ⟨rfl, rfl⟩

/-- What is planned for a chunk is what its identities add to the plan, one by one. -/
theorem chunk_plan {chunk : List SignedRegistration} {ready : List PreparedRegistration}
    {plan : Plan} {u v : List Exchange}
    (prepares : (e.prepare exclusions statuses chunk).Yields u ready)
    (plans : (e.reconciler.reconcile exclusions statuses ready).Yields v plan)
    (answer : o.Answer (u ++ v)) :
    plan = Plan.flat (chunk.map fun intent =>
      o.outcome e (exclusions.entry intent.pubkey) (statuses.identity intent.pubkey) intent) := by
  have ready_eq := (prepareFrom_yields prepares (answer.mono (List.subset_append_left ..)) nofun).1
  rw [(reconcile_yields plans (answer.mono (List.subset_append_right ..))).1, ready_eq,
    Plan.flat_filterMap]
  refine congrArg Plan.flat (List.map_congr_left fun intent _ => ?_)
  rw [outcome]
  cases kept : o.prepared e (exclusions.entry intent.pubkey) (statuses.identity intent.pubkey)
    intent with
  | none => rfl
  | some prepared => rw [Option.elim_some, Reconciler.stateOf, pubkey_of_prepared kept]; rfl

/-! ## Rows of one identity -/

/-- An identity adds nothing to the plan, or is reported with its rows. -/
theorem outcome_cases (o : Signers) (e : Engine) (exclusion : Exclusion) (status : IdentityStatus)
    (intent : SignedRegistration) :
    o.outcome e exclusion status intent = .empty ∨
      ∃ (prepared : PreparedRegistration) (signature : Option EcdsaSignature),
        prepared.pubkey = intent.pubkey ∧
        (classify status exclusion e.signer).isReported = true ∧
        (classify status exclusion e.signer).needsDelegation = signature.isSome ∧
        o.outcome e exclusion status intent =
          let state := classify status exclusion e.signer
          let parties := Plan.parties e.signer prepared.payoutRecipient state
          Plan.rowsFor prepared state parties.1 parties.2 signature := by
  cases kept : o.prepared e exclusion status intent with
  | none => exact .inl (by rw [outcome, kept])
  | some prepared =>
  have key := pubkey_of_prepared kept
  rw [outcome, kept]
  dsimp only
  rw [planned]
  cases reported : Plan.omission? (classify status exclusion e.signer) with
  | some reason => exact .inl rfl
  | none =>
  have reported := Reconciler.omission?_eq_none.1 reported
  dsimp only
  cases needed : (classify status exclusion e.signer).needsDelegation with
  | false =>
    rw [if_neg Bool.false_ne_true]
    exact .inr ⟨prepared, none, key, reported, rfl, rfl⟩
  | true =>
    rw [if_pos rfl]
    cases o.secondary e.reconciler prepared _ with
    | error err => exact .inl rfl
    | ok signature => exact .inr ⟨prepared, some signature, key, reported, rfl, rfl⟩

end Signers

end Registrar
