import Registrar.Proofs.Batching
import Registrar.Proofs.RowSafety

/-! What becomes of each identity of a call: it is among the results, or it was reported as omitted,
and only one of the two, and only once. -/
namespace Registrar
set_option autoImplicit false

open Program

/-! ## Reports of omissions -/

def Exchange.omits (k : PublicKey) (x : Exchange) : Bool :=
  match x.question with
  | .observe (.omitted k' _) => k' = k
  | _ => false

/-- How often the identity is reported as omitted. -/
def omissions (k : PublicKey) (t : List Exchange) : Nat :=
  t.countP (·.omits k)

theorem omissions_append (k : PublicKey) (t u : List Exchange) :
    omissions k (t ++ u) = omissions k t + omissions k u :=
  List.countP_append

/-- Nothing is reported as omitted in the exchanges. -/
def Complete (t : List Exchange) : Prop :=
  ∀ x ∈ t, ∀ k reason, x.question ≠ .observe (.omitted k reason)

theorem complete_nil : Complete [] := fun _ hx => absurd hx List.not_mem_nil

theorem complete_cons {x : Exchange} {t : List Exchange} :
    Complete (x :: t) ↔ (∀ k reason, x.question ≠ .observe (.omitted k reason)) ∧ Complete t :=
  List.forall_mem_cons

theorem Complete.omissions {t : List Exchange} (h : Complete t) (k : PublicKey) :
    omissions k t = 0 := by
  refine List.countP_eq_zero.2 fun x hx => ?_
  unfold Exchange.omits
  split
  · rename_i reason hq
    exact absurd hq (h x hx _ reason)
  · exact Bool.false_ne_true

theorem complete_of_looksUp {t : List Exchange} (looking : ∀ x ∈ t, x.question.looksUp = true) :
    Complete t := by
  intro x hx k reason hq
  have := looking x hx
  rw [hq] at this
  cases this

/-- Of the identities given, those left come in their order, and the others are reported as omitted
in the exchanges, each as often as it is missing. -/
structure Accounts (t : List Exchange) (given left : List PublicKey) : Prop where
  sublist : left.Sublist given
  balance : ∀ k, omissions k t + left.count k = given.count k

namespace Accounts

variable {t u : List Exchange} {given left given' left' : List PublicKey}

theorem of_complete (h : Complete t) (given : List PublicKey) : Accounts t given given where
  sublist := List.Sublist.refl _
  balance k := by rw [h.omissions, Nat.zero_add]

theorem trans (h : Accounts t given left) (h' : Accounts u left left') :
    Accounts (t ++ u) given left' where
  sublist := h'.sublist.trans h.sublist
  balance k := by
    have first := h.balance k
    have second := h'.balance k
    rw [omissions_append]
    omega

theorem append (h : Accounts t given left) (h' : Accounts u given' left') :
    Accounts (t ++ u) (given ++ given') (left ++ left') where
  sublist := h.sublist.append h'.sublist
  balance k := by
    have first := h.balance k
    have second := h'.balance k
    rw [omissions_append, List.count_append, List.count_append]
    omega

theorem omitted {k : PublicKey} {reason : Omission} (h : Complete t) :
    Accounts (t ++ [⟨.observe (.omitted k reason), ()⟩]) [k] [] where
  sublist := List.nil_sublist _
  balance k' := by
    rw [omissions_append, h.omissions, Nat.zero_add]
    rfl

/-- Where the identities given are distinct, each is left and never reported, or the other way
round and reported once. -/
theorem once (h : Accounts t given left) (nodup : given.Nodup) {k : PublicKey} (hk : k ∈ given) :
    (k ∈ left ∧ omissions k t = 0) ∨ (k ∉ left ∧ omissions k t = 1) := by
  have balance := h.balance k
  rw [List.count_eq_one_of_mem nodup hk] at balance
  by_cases hl : k ∈ left
  · rw [List.count_eq_one_of_mem (h.sublist.nodup nodup) hl] at balance
    exact .inl ⟨hl, by omega⟩
  · rw [List.count_eq_zero_of_not_mem hl] at balance
    exact .inr ⟨hl, by omega⟩

end Accounts

/-! ## The payout policy -/

namespace Engine

variable {e : Engine} {exclusions : ExclusionTable} {statuses : StatusSnapshot}
  {intent : SignedRegistration}

theorem listed_complete {listing : Listing} {t : List Exchange} {keys : List PublicKey}
    (h : (listed listing).Yields t keys) : Complete t := by
  cases listing with
  | some known =>
    obtain ⟨rfl, -⟩ := h
    exact complete_nil
  | none =>
    obtain ⟨answer, t, rfl, h⟩ := h
    obtain rfl : t = [] := by cases answer <;> exact h.1
    exact complete_cons.2 ⟨nofun, complete_nil⟩

/-- A message signed anew is still the identity's own. -/
theorem resign_accounts {payout : Address} {t : List Exchange}
    {prepared : Option PreparedRegistration} (h : (resign intent payout).Yields t prepared) :
    Accounts t [intent.pubkey] (prepared.toList.map (·.pubkey)) := by
  unfold resign at h
  obtain ⟨answer, t, rfl, h⟩ := h
  have asked : Complete
      [⟨.signRegistration { intent.message with feeRecipient := payout }, answer⟩] :=
    complete_cons.2 ⟨nofun, complete_nil⟩
  cases answer with
  | error err =>
    obtain ⟨⟨⟩, t, rfl, rfl, rfl⟩ := h
    exact .omitted asked
  | ok signed =>
    simp only [Program.bind] at h
    by_cases same : signed.message = { intent.message with feeRecipient := payout }
    · rw [if_pos same] at h
      obtain ⟨rfl, rfl⟩ := h
      have key : signed.pubkey = intent.pubkey := by
        rw [SignedRegistration.pubkey, same]
        rfl
      have kept := Accounts.of_complete asked [intent.pubkey]
      rw [← key] at kept ⊢
      exact kept
    · rw [if_neg same] at h
      obtain ⟨⟨⟩, t, rfl, rfl, rfl⟩ := h
      exact .omitted asked

theorem prepareOne_accounts {listing listing' : Listing} {t : List Exchange}
    {prepared : Option PreparedRegistration}
    (h : (e.prepareOne exclusions statuses intent listing).Yields t (prepared, listing')) :
    Accounts t [intent.pubkey] (prepared.toList.map (·.pubkey)) := by
  have kept {t : List Exchange} (quiet : Complete t) : Accounts t [intent.pubkey] [intent.pubkey] :=
    .of_complete quiet _
  unfold prepareOne at h
  cases ho : e.overrideFor exclusions statuses intent with
  | none =>
    rw [ho] at h
    obtain ⟨rfl, h⟩ := h
    cases h
    exact kept complete_nil
  | some payout =>
  simp only [ho] at h
  split at h
  · obtain ⟨rfl, h⟩ := h
    cases h
    exact kept complete_nil
  rw [yields_monad_bind] at h
  obtain ⟨listing, t, keys, rfl, hl, h⟩ := h
  split at h
  · rw [yields_monad_bind] at h
    obtain ⟨t, u, signed, rfl, hs, rfl, h⟩ := h
    cases h
    rw [List.append_nil]
    exact (kept (listed_complete hl)).trans (resign_accounts hs)
  · obtain ⟨rfl, h⟩ := h
    cases h
    rw [List.append_nil]
    exact kept (listed_complete hl)

theorem prepare_accounts {chunk : List SignedRegistration} {t : List Exchange}
    {prepared : List PreparedRegistration}
    (h : (e.prepare exclusions statuses chunk).Yields t prepared) :
    Accounts t (chunk.map (·.pubkey)) (prepared.map (·.pubkey)) := by
  unfold prepare at h
  generalize (none : Listing) = listing at h
  induction chunk generalizing listing t prepared with
  | nil =>
    obtain ⟨rfl, rfl⟩ := h
    exact .of_complete complete_nil []
  | cons intent rest ih =>
    rw [prepareFrom, yields_monad_bind] at h
    obtain ⟨t, u, ⟨first, listing'⟩, rfl, h₁, h⟩ := h
    dsimp only at h
    rw [yields_monad_bind] at h
    obtain ⟨u, v, others, rfl, h₂, rfl, rfl⟩ := h
    have accounts := (prepareOne_accounts h₁).append (ih listing' h₂)
    rw [List.append_nil, List.map_append]
    exact accounts

end Engine

/-! ## The plan -/

theorem Reconciler.Planned.accounts {r : Reconciler} {exclusions : ExclusionTable}
    {statuses : StatusSnapshot} {prepared : PreparedRegistration} {t : List Exchange} {plan : Plan}
    (h : Planned r exclusions statuses prepared t plan) :
    Accounts t [prepared.pubkey] (plan.results.map (·.pubkey)) := by
  have classified : Complete [⟨.observe (.classified prepared.pubkey
      (r.stateOf exclusions statuses prepared)), ()⟩] :=
    complete_cons.2 ⟨nofun, complete_nil⟩
  cases h with
  | omitted reason h => exact .omitted classified
  | unsigned asking h =>
    rw [← List.cons_append]
    refine .omitted (complete_cons.2 ⟨nofun, ?_⟩)
    intro x hx k reason hq
    obtain ⟨registration, representative, err, rfl⟩ := h x hx
    cases hq
  | delegated signature reported needed =>
    rw [results_rows, List.map_singleton, Plan.resultFor_pubkey]
    refine .of_complete ?_ _
    exact complete_cons.2 ⟨nofun, complete_cons.2 ⟨nofun, complete_nil⟩⟩
  | reported reported unneeded =>
    rw [results_rows, List.map_singleton, Plan.resultFor_pubkey]
    exact .of_complete classified _

theorem Reconciler.reconcile_accounts {r : Reconciler} {exclusions : ExclusionTable}
    {statuses : StatusSnapshot} {chunk : List PreparedRegistration} {t : List Exchange}
    {plan : Plan} (h : (r.reconcile exclusions statuses chunk).Yields t plan) :
    Accounts t (chunk.map (·.pubkey)) (plan.results.map (·.pubkey)) := by
  induction chunk generalizing t plan with
  | nil =>
    obtain ⟨rfl, rfl⟩ := h
    exact .of_complete complete_nil []
  | cons prepared rest ih =>
    rw [reconcile, yields_monad_bind] at h
    obtain ⟨t, u, first, rfl, h₁, h⟩ := h
    rw [yields_monad_bind] at h
    obtain ⟨u, v, others, rfl, h₂, rfl, rfl⟩ := h
    have accounts := (planOne_planned h₁).accounts.append (ih h₂)
    rw [← List.map_append] at accounts
    rw [List.append_nil]
    exact accounts

/-- Every row of a batch stands for an identity with a result, and in the order of the results. -/
theorem Reconciler.keys_sublist_results {r : Reconciler} {exclusions : ExclusionTable}
    {statuses : StatusSnapshot} {chunk : List PreparedRegistration} {t : List Exchange}
    {plan : Plan} (h : (r.reconcile exclusions statuses chunk).Yields t plan) (a : Authority) :
    (plan.keys a).Sublist (plan.results.map (·.pubkey)) := by
  obtain ⟨parts, -, -, results, registry, delegation⟩ := reconcile_parts h
  have whole : plan.keys a = parts.flatMap (·.plan.keys a) := by
    cases a with
    | registry => rw [Plan.keys, registry, List.map_flatMap]; rfl
    | delegationLedger => rw [Plan.keys, delegation, List.map_flatMap]; rfl
  have each (part : PlannedIdentity r exclusions statuses) :
      (part.plan.keys a).Sublist (part.plan.results.map (·.pubkey)) := by
    obtain empty | ⟨secondary, -, -, -, rows⟩ := part.planned.empty_or_rows
    · rw [empty]
      cases a <;> exact List.nil_sublist _
    · rw [rows, results_rows, List.map_singleton, Plan.resultFor_pubkey]
      cases a with
      | registry =>
        rw [Plan.keys, registryBatch_rows]
        split
        · exact List.Sublist.refl _
        · exact List.nil_sublist _
      | delegationLedger =>
        rw [Plan.keys, delegationBatch_rows]
        cases secondary with
        | none => exact List.nil_sublist _
        | some signature => exact List.Sublist.refl _
  rw [whole, results, List.map_flatMap]
  clear results registry delegation whole
  induction parts with
  | nil => exact List.Sublist.refl _
  | cons part rest ih => exact (each part).append ih

/-! ## The call -/

theorem Dispatcher.dispatch_complete {d : Dispatcher} {plan : Plan} {t : List Exchange}
    (h : (d.dispatch plan).Begins t) : Complete t := by
  intro x hx k reason hq
  obtain sends | ⟨a, n, status, hd⟩ := (dispatch_asks d plan).question_of_begins h x hx
  · rw [hq] at sends
    cases sends
  · rw [hq] at hd
    cases hd

namespace Engine

variable {e : Engine} {exclusions : ExclusionTable}

/-- The identities of a batch stand in it in the order of the chunk. -/
theorem ChunkRun.keys_sublist (run : ChunkRun e exclusions) (a : Authority) :
    (run.plan.keys a).Sublist (run.chunk.map (·.pubkey)) :=
  (Reconciler.keys_sublist_results run.plans a).trans
    ((Reconciler.reconcile_accounts run.plans).sublist.trans
      (prepare_accounts run.prepares).sublist)

theorem ChunkRun.keys_subset (run : ChunkRun e exclusions) (a : Authority) :
    run.plan.keys a ⊆ run.chunk.map (·.pubkey) :=
  (run.keys_sublist a).subset

theorem FinishedRun.accounts (run : FinishedRun e exclusions) :
    Accounts run.exchanges (run.chunk.map (·.pubkey)) (run.final.results.map (·.pubkey)) := by
  have reading := (readStatuses_looksUp e (run.chunk.map (·.pubkey))).question_of_yields run.reads
  have read := Accounts.of_complete (complete_of_looksUp reading) (run.chunk.map (·.pubkey))
  have sent := Accounts.of_complete (Dispatcher.dispatch_complete run.sends)
    (run.plan.results.map (·.pubkey))
  rw [Dispatcher.dispatch_map_pubkey run.finishes]
  exact ((read.trans (prepare_accounts run.prepares)).trans
    (Reconciler.reconcile_accounts run.plans)).trans sent

theorem accounts_runs (runs : List (FinishedRun e exclusions)) :
    Accounts (runs.flatMap (·.exchanges)) ((runs.map (·.chunk)).flatten.map (·.pubkey))
      ((runs.flatMap (·.final.results)).map (·.pubkey)) := by
  induction runs with
  | nil => exact .of_complete complete_nil []
  | cons run rest ih =>
    simp only [List.flatMap_cons, List.map_cons, List.flatten_cons, List.map_append]
    exact run.accounts.append ih

theorem chunksOf_nil (e : Engine) : e.chunksOf [] = [] := by
  have none : dedup SignedRegistration.pubkey [] = [] := rfl
  rw [chunksOf, none, List.length_nil, chunkRanges_zero, List.map_nil]

/-- The chunks put together again are the intents without repetition. -/
theorem flatten_chunksOf (e : Engine) (intents : List SignedRegistration) :
    (e.chunksOf intents).flatten = dedup SignedRegistration.pubkey intents :=
  flatten_chunks _ e.chunkSize

/-- The chunks hold each identity of the intents once, in the order in which they first came. -/
theorem map_pubkey_chunksOf (e : Engine) (intents : List SignedRegistration) :
    (e.chunksOf intents).flatten.map (·.pubkey) = (intents.map (·.pubkey)).eraseDups := by
  rw [flatten_chunksOf, map_dedup]

theorem processRegistrations_accounts {intents : List SignedRegistration} {t : List Exchange}
    {results : List ReconciliationResult}
    (h : (e.processRegistrations intents).Yields t (.ok results)) :
    Accounts t (intents.map (·.pubkey)).eraseDups (results.map (·.pubkey)) := by
  obtain ⟨rfl, rfl, rfl⟩ | ⟨exclusions, runs, hruns, rfl, rfl⟩ := processRegistrations_yields h
  · exact .of_complete complete_nil []
  have accounts := accounts_runs runs
  rw [hruns, map_pubkey_chunksOf] at accounts
  have opening : Complete [⟨.acquire .session, ()⟩, ⟨.exclusions, exclusions⟩] :=
    complete_cons.2 ⟨nofun, complete_cons.2 ⟨nofun, complete_nil⟩⟩
  have closing : Complete [⟨.release .session, ()⟩] := complete_cons.2 ⟨nofun, complete_nil⟩
  exact ((Accounts.of_complete opening _).trans accounts).trans (.of_complete closing _)

/-- A call that gives results accounts for every identity of its intents exactly once: it has one
result, in the order in which the identities first came, and is never reported as omitted, or it
has none and is reported as omitted once. -/
theorem processRegistrations_once {intents : List SignedRegistration} {t : List Exchange}
    {results : List ReconciliationResult}
    (h : (e.processRegistrations intents).Yields t (.ok results)) :
    (results.map (·.pubkey)).Nodup ∧
      (results.map (·.pubkey)).Sublist (intents.map (·.pubkey)).eraseDups ∧
      ∀ k ∈ intents.map (·.pubkey),
        (k ∈ results.map (·.pubkey) ∧ omissions k t = 0) ∨
          (k ∉ results.map (·.pubkey) ∧ omissions k t = 1) := by
  have accounts := processRegistrations_accounts h
  have nodup := nodup_eraseDups (intents.map (·.pubkey))
  exact ⟨accounts.sublist.nodup nodup, accounts.sublist,
    fun k hk => accounts.once nodup (List.mem_eraseDups.2 hk)⟩

/-- The sample call: one identity is registered, the other one is left out. -/
theorem processRegistrations_once_sample :
    ∃ (t : List Exchange) (results : List ReconciliationResult),
      (freshEngine.processRegistrations sampleIntents).Yields t (.ok results) ∧
      (results.map (·.pubkey)).Nodup ∧
      (results.map (·.pubkey)).Sublist (sampleIntents.map (·.pubkey)).eraseDups ∧
      ∀ k ∈ sampleIntents.map (·.pubkey),
        (k ∈ results.map (·.pubkey) ∧ omissions k t = 0) ∨
          (k ∉ results.map (·.pubkey) ∧ omissions k t = 1) := by
  obtain ⟨raw, signed⟩ := sampleCall_signed
  have yields := yields_transcript (Gateway.takingNode false) _ []
    (congrArg Prod.fst (run_processRegistrations_sample signed))
  exact ⟨_, _, yields, processRegistrations_once yields⟩

end Engine

end Registrar
