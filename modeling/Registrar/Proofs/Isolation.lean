import Registrar.Proofs.Accounting
import Registrar.Proofs.Course
import Registrar.Proofs.Settling
import Registrar.Proofs.SettlingNode

/-! Identities do not get into each other's way: as long as the answers stay the same, a call plans
for each of them what a call for it alone would plan, however the identities are cut into chunks. -/
namespace Registrar
set_option autoImplicit false

open Program

/-! ## Shares -/

/-- What is made of intents before anything is sent: the plan, and the identities left out with the
reason, those that the payout policy dropped apart from those left out of the plan. -/
@[ext] structure Share extends Plan where
  unprepared : List (PublicKey × Omission)
  unplanned : List (PublicKey × Omission)
deriving DecidableEq

namespace Share

def empty : Share :=
  ⟨.empty, [], []⟩

def append (s s' : Share) : Share :=
  ⟨s.toPlan ++ s'.toPlan, s.unprepared ++ s'.unprepared, s.unplanned ++ s'.unplanned⟩

instance : Append Share := ⟨append⟩

def flat (shares : List Share) : Share :=
  ⟨Plan.flat (shares.map (·.toPlan)), shares.flatMap (·.unprepared), shares.flatMap (·.unplanned)⟩

theorem flat_cons (s : Share) (shares : List Share) : flat (s :: shares) = s ++ flat shares := rfl

theorem flat_singleton (s : Share) : flat [s] = s := by
  rw [flat_cons]
  ext1 <;> exact List.append_nil _

theorem flat_append (shares others : List Share) :
    flat (shares ++ others) = flat shares ++ flat others := by
  rw [flat, List.map_append, Plan.flat_append, List.flatMap_append, List.flatMap_append]
  rfl

/-- What a share has for the identities that `p` picks. -/
def among (s : Share) (p : PublicKey → Bool) : Share where
  results := s.results.filter fun result => p result.pubkey
  registryBatch := s.registryBatch.filter fun row => p row.pubkey
  delegationBatch := s.delegationBatch.filter fun row => p row.pubkey
  unprepared := s.unprepared.filter fun omission => p omission.1
  unplanned := s.unplanned.filter fun omission => p omission.1

theorem among_append (s s' : Share) (p : PublicKey → Bool) :
    (s ++ s').among p = s.among p ++ s'.among p := by
  ext1 <;> exact List.filter_append ..

/-- The share is about this identity alone. -/
structure IsOf (s : Share) (k : PublicKey) : Prop where
  results : ∀ result ∈ s.results, result.pubkey = k
  registryBatch : ∀ row ∈ s.registryBatch, row.pubkey = k
  delegationBatch : ∀ row ∈ s.delegationBatch, row.pubkey = k
  unprepared : ∀ omission ∈ s.unprepared, omission.1 = k
  unplanned : ∀ omission ∈ s.unplanned, omission.1 = k

theorem IsOf.among_eq {s : Share} {k : PublicKey} (h : s.IsOf k) (p : PublicKey → Bool) :
    s.among p = if p k then s else .empty := by
  have rows {ρ : Type} {key : ρ → PublicKey} {rows : List ρ} (own : ∀ row ∈ rows, key row = k) :
      rows.filter (fun row => p (key row)) = if p k then rows else [] := by
    rw [List.filter_congr fun row hrow => congrArg p (own row hrow)]
    cases p k <;> simp
  rw [among, rows h.results, rows h.registryBatch, rows h.delegationBatch, rows h.unprepared,
    rows h.unplanned]
  cases p k <;> rfl

theorem among_flat_map {f : SignedRegistration → Share}
    (own : ∀ intent, (f intent).IsOf intent.pubkey) (intents : List SignedRegistration)
    (p : PublicKey → Bool) :
    (flat (intents.map f)).among p =
      flat ((intents.filter fun intent => p intent.pubkey).map f) := by
  induction intents with
  | nil => rfl
  | cons intent rest ih =>
    rw [List.map_cons, flat_cons, among_append, ih, (own intent).among_eq, List.filter_cons]
    cases p intent.pubkey <;> rfl

end Share

/-! ## One identity -/

namespace Signers

variable {o : Signers} {e : Engine} {exclusion : Exclusion} {status : IdentityStatus}
  {intent : SignedRegistration}

/-- What is made of an intent. -/
def share (o : Signers) (e : Engine) (exclusion : Exclusion) (status : IdentityStatus)
    (intent : SignedRegistration) : Share where
  toPlan := o.outcome e exclusion status intent
  unprepared := o.dropped e exclusion status intent
  unplanned := (o.prepared e exclusion status intent).elim [] fun prepared =>
    o.passedOver e.reconciler prepared (classify status exclusion e.signer)

theorem isOf_share (o : Signers) (e : Engine) (exclusion : Exclusion) (status : IdentityStatus)
    (intent : SignedRegistration) : (o.share e exclusion status intent).IsOf intent.pubkey where
  results result hresult := by
    rw [share] at hresult
    obtain empty | ⟨prepared, signature, key, -, -, rows⟩ :=
      o.outcome_cases e exclusion status intent
    · rw [empty] at hresult
      exact absurd hresult List.not_mem_nil
    · rw [rows] at hresult
      rw [List.mem_singleton.1 hresult, Plan.resultFor_pubkey, key]
  registryBatch row hrow :=
    (((o.hasPart_outcome e exclusion status intent).registry row).1 hrow).2
  delegationBatch row hrow :=
    (((o.hasPart_outcome e exclusion status intent).delegation row).1 hrow).2
  unprepared omission h := by
    simp only [share, dropped] at h
    split at h
    · rw [List.mem_singleton.1 h]
    · cases h
  unplanned omission h := by
    simp only [share] at h
    cases kept : o.prepared e exclusion status intent with
    | none =>
      rw [kept] at h
      cases h
    | some prepared =>
      rw [kept, Option.elim_some, passedOver] at h
      rw [← pubkey_of_prepared kept]
      split at h
      · rw [List.mem_singleton.1 h]
      · split at h
        · split at h
          · rw [List.mem_singleton.1 h]
          · cases h
        · cases h

theorem chunk_share {exclusions : ExclusionTable} {statuses : StatusSnapshot}
    {chunk : List SignedRegistration} {ready : List PreparedRegistration} {plan : Plan}
    {u v : List Exchange} (prepares : (e.prepare exclusions statuses chunk).Yields u ready)
    (plans : (e.reconciler.reconcile exclusions statuses ready).Yields v plan)
    (answer : o.Answer (u ++ v)) :
    (⟨plan, omitted u, omitted v⟩ : Share) = Share.flat (chunk.map fun intent =>
      o.share e (exclusions.entry intent.pubkey) (statuses.identity intent.pubkey) intent) := by
  obtain ⟨ready_eq, dropped_eq⟩ :=
    prepareFrom_yields prepares (answer.mono (List.subset_append_left ..)) nofun
  have left := (reconcile_yields plans (answer.mono (List.subset_append_right ..))).2
  rw [ready_eq, List.filterMap_eq_flatMap_toList, List.flatMap_assoc] at left
  rw [chunk_plan prepares plans answer, dropped_eq, left, Share.flat, List.map_map,
    List.flatMap_map, List.flatMap_map]
  -- the second stage is told of the prepared intents only, so it is taken back to the intents
  refine congrArg (Share.mk _ _) (List.flatMap_congr fun intent _ => ?_)
  rw [share]
  cases kept : o.prepared e (exclusions.entry intent.pubkey) (statuses.identity intent.pubkey)
    intent with
  | none => rfl
  | some prepared =>
    rw [Option.toList_some, List.flatMap_singleton, Reconciler.stateOf, pubkey_of_prepared kept]
    rfl

end Signers

/-! ## Answers alike for one identity -/

/-- The engines differ at most in how they cut up intents, where they read and how they send. -/
structure Engine.Alike (e e' : Engine) : Prop where
  signer : e.signer = e'.signer
  delegation : e.settings.delegation = e'.settings.delegation
  payoutOverride : e.settings.payoutOverride = e'.settings.payoutOverride
  canResign : e.canResign = e'.canResign
  canAuthorize : e.canAuthorize = e'.canAuthorize

theorem Engine.Alike.reconciler {e e' : Engine} (h : e.Alike e') :
    e.reconciler = e'.reconciler := by
  rw [Engine.reconciler, Engine.reconciler, h.canAuthorize, h.signer]

/-- The signers answer alike to whatever they are asked for this identity. -/
structure Signers.AgreeOn (o o' : Signers) (k : PublicKey) : Prop where
  listing : k ∈ o.keys ↔ k ∈ o'.keys
  sign : ∀ m : RegistrationMessage, m.pubkey = k → o.sign m = o'.sign m
  authorize : ∀ (r : SignedRegistration) (representative : Address), r.pubkey = k →
    o.authorize r representative = o'.authorize r representative

theorem Signers.AgreeOn.refl (o : Signers) (k : PublicKey) : o.AgreeOn o k :=
  ⟨.rfl, fun _ _ => rfl, fun _ _ _ => rfl⟩

namespace Signers

variable {o o' : Signers} {e e' : Engine} {intent : SignedRegistration}

theorem prepared_congr (alike : e.Alike e') (agree : o.AgreeOn o' intent.pubkey)
    (exclusion : Exclusion) (status : IdentityStatus) :
    o.prepared e exclusion status intent = o'.prepared e' exclusion status intent := by
  have override : e.overrideAt exclusion status intent = e'.overrideAt exclusion status intent := by
    rw [Engine.overrideAt, Engine.overrideAt, alike.payoutOverride]
  have listed : o.keys.contains intent.pubkey = o'.keys.contains intent.pubkey := by
    simp only [List.contains_eq_mem, agree.listing]
  have signed : o.resigned intent = o'.resigned intent := by
    funext payout
    rw [resigned, resigned, agree.sign { intent.message with feeRecipient := payout } rfl]
  rw [Signers.prepared, Signers.prepared, override, alike.canResign, listed, signed]

theorem secondary_congr {prepared : PreparedRegistration} (agree : o.AgreeOn o' prepared.pubkey)
    (r : Reconciler) : o.secondary r prepared = o'.secondary r prepared := by
  funext representative
  rw [secondary, secondary, agree.authorize _ _ rfl]

/-- What is made of an intent depends on nothing but what is answered for its own identity. -/
theorem share_congr (alike : e.Alike e') (agree : o.AgreeOn o' intent.pubkey)
    (exclusion : Exclusion) (status : IdentityStatus) :
    o.share e exclusion status intent = o'.share e' exclusion status intent := by
  rw [share, share, outcome, outcome, dropped, dropped, prepared_congr alike agree, alike.signer,
    alike.reconciler]
  cases kept : o'.prepared e' exclusion status intent with
  | none => rfl
  | some prepared =>
    rw [← pubkey_of_prepared kept] at agree
    dsimp only [Option.elim_some]
    rw [planned, planned, passedOver, passedOver, secondary_congr agree]

end Signers

/-! ## Circumstances of a call -/

/-- The ledger is read only when it is in use. -/
def Engine.Reads (e : Engine) : Authority → Prop
  | .registry => True
  | .delegationLedger => e.settings.delegation.isSome = true

/-- What the engine finds outside itself, whoever asks and whenever. -/
structure Circumstances where
  statuses : Authority → StatusMap
  table : ExclusionTable
  signers : Signers

namespace Circumstances

/-- Whatever the engine read and asked for in the exchanges was answered so. -/
structure Hold (c : Circumstances) (e : Engine) (t : List Exchange) : Prop where
  statuses : ∀ keys a u answer, e.Reads a → u <:+: t → (e.statuses.read keys a).Yields u answer →
    ∃ told, answer = .ok told ∧ ∀ k ∈ keys, told.status k = (c.statuses a).status k
  exclusions : ∀ answer, ⟨.exclusions, answer⟩ ∈ t → answer = c.table
  signers : c.signers.Answer t

theorem Hold.mono {c : Circumstances} {e : Engine} {t t' : List Exchange} (h : c.Hold e t')
    (ht : t <:+: t') : c.Hold e t where
  statuses keys a u answer reads hu := h.statuses keys a u answer reads (hu.trans ht)
  exclusions answer hx := h.exclusions answer (ht.subset hx)
  signers := h.signers.mono ht.subset

/-- The circumstances are the same as far as this identity is concerned. -/
structure AgreeOn (c c' : Circumstances) (k : PublicKey) : Prop where
  status : ∀ a, (c.statuses a).status k = (c'.statuses a).status k
  exclusion : c.table.entry k = c'.table.entry k
  signers : c.signers.AgreeOn c'.signers k

theorem AgreeOn.refl (c : Circumstances) (k : PublicKey) : c.AgreeOn c k :=
  ⟨fun _ => rfl, rfl, .refl c.signers k⟩

def identity (c : Circumstances) (e : Engine) (k : PublicKey) : IdentityStatus :=
  ⟨(c.statuses .registry).status k,
    e.settings.delegation.map fun _ => (c.statuses .delegationLedger).status k⟩

/-- What the engine makes of an intent. -/
def share (c : Circumstances) (e : Engine) (intent : SignedRegistration) : Share :=
  c.signers.share e (c.table.entry intent.pubkey) (c.identity e intent.pubkey) intent

theorem share_congr {c c' : Circumstances} {e e' : Engine} {intent : SignedRegistration}
    (alike : e.Alike e') (agree : c.AgreeOn c' intent.pubkey) :
    c.share e intent = c'.share e' intent := by
  have found : c.identity e intent.pubkey = c'.identity e' intent.pubkey := by
    rw [identity, identity, agree.status, agree.status, alike.delegation]
  rw [share, share, agree.exclusion, found]
  exact Signers.share_congr alike agree.signers _ _

end Circumstances

namespace Engine

variable {e : Engine} {c : Circumstances} {t : List Exchange}

/-- In given circumstances the reading of a chunk succeeds, and tells of each identity what the
circumstances are. -/
theorem readStatuses_of_hold {keys : List PublicKey} {answer : Except Error StatusSnapshot}
    (hold : c.Hold e t) (h : (e.readStatuses keys).Yields t answer) :
    ∃ statuses, answer = .ok statuses ∧ ∀ k ∈ keys, statuses.identity k = c.identity e k := by
  unfold readStatuses at h
  rw [yields_monad_bind] at h
  obtain ⟨u, v, registry, rfl, asked, h⟩ := h
  obtain ⟨registry, rfl, registered⟩ :=
    hold.statuses _ .registry _ _ trivial (List.prefix_append ..).isInfix asked
  cases hd : e.settings.delegation with
  | none =>
    simp only [hd, Option.isNone_none, if_true] at h
    obtain ⟨-, rfl⟩ := h
    refine ⟨_, rfl, fun k hk => ?_⟩
    rw [StatusSnapshot.identity, Circumstances.identity, registered k hk, hd]
    rfl
  | some ledger =>
    simp only [hd, Option.isNone_some] at h
    rw [if_neg Bool.false_ne_true, yields_monad_bind] at h
    obtain ⟨v, w, delegation, rfl, asked, h⟩ := h
    have inside : v <:+: u ++ (v ++ w) := ⟨u, w, by simp⟩
    have inUse : e.Reads .delegationLedger := Option.isSome_iff_exists.2 ⟨ledger, hd⟩
    obtain ⟨delegation, rfl, delegated⟩ := hold.statuses _ _ _ _ inUse inside asked
    obtain ⟨-, rfl⟩ := h
    refine ⟨_, rfl, fun k hk => ?_⟩
    rw [StatusSnapshot.identity, Circumstances.identity, registered k hk, hd, Option.map_some,
      delegated k hk]
    rfl

/-! ## Chunks and calls -/

variable {exclusions : ExclusionTable}

def ChunkRun.share (run : ChunkRun e exclusions) : Share :=
  ⟨run.plan, omitted run.preparing, omitted run.planning⟩

/-- What is made of a chunk is what is made of its intents, one by one. -/
theorem ChunkRun.share_eq (run : ChunkRun e c.table) (hold : c.Hold e run.exchanges) :
    run.share = Share.flat (run.chunk.map (c.share e)) := by
  have asked : run.preparing ++ run.planning ⊆ run.exchanges :=
    List.Subset.trans run.asked_subset (List.subset_append_left ..)
  obtain ⟨statuses, told, identity⟩ :=
    readStatuses_of_hold (hold.mono run.reading_prefix.isInfix) run.reads
  cases told
  rw [ChunkRun.share, Signers.chunk_share run.prepares run.plans (hold.signers.mono asked)]
  refine congrArg Share.flat (List.map_congr_left fun intent hintent => ?_)
  rw [identity _ (List.mem_map_of_mem hintent)]
  rfl

/-- What is made of chunks one behind another, wherever they were cut. -/
theorem share_runs (runs : List (FinishedRun e c.table))
    (hold : c.Hold e (runs.flatMap (·.exchanges))) :
    Share.flat (runs.map (·.share)) =
      Share.flat ((runs.map (·.chunk)).flatten.map (c.share e)) := by
  induction runs with
  | nil => rfl
  | cons run rest ih =>
    rw [List.flatMap_cons] at hold
    have first := run.share_eq (hold.mono (List.prefix_append ..).isInfix)
    have others := ih (hold.mono (List.suffix_append ..).isInfix)
    rw [List.map_cons, Share.flat_cons, first, others, List.map_cons, List.flatten_cons,
      List.map_append, Share.flat_append]

/-- A call that came to its end, chunk by chunk. -/
structure FinishedCall (e : Engine) (intents : List SignedRegistration) where
  exclusions : ExclusionTable
  runs : List (FinishedRun e exclusions)
  covers : runs.map (·.chunk) = e.chunksOf intents

namespace FinishedCall

variable {intents : List SignedRegistration}

def exchanges (call : FinishedCall e intents) : List Exchange :=
  if intents.isEmpty then []
  else ⟨.acquire .session, ()⟩ :: ⟨.exclusions, call.exclusions⟩ ::
    (call.runs.flatMap (·.exchanges) ++ [⟨.release .session, ()⟩])

def results (call : FinishedCall e intents) : List ReconciliationResult :=
  call.runs.flatMap (·.final.results)

def share (call : FinishedCall e intents) : Share :=
  Share.flat (call.runs.map (·.share))

theorem yields_iff {results : List ReconciliationResult} :
    (e.processRegistrations intents).Yields t (.ok results) ↔
      ∃ call : FinishedCall e intents, call.exchanges = t ∧ call.results = results := by
  constructor
  · intro h
    obtain ⟨rfl, rfl, rfl⟩ | ⟨exclusions, runs, all, rfl, rfl⟩ := processRegistrations_yields h
    · exact ⟨⟨.empty 0, [], (chunksOf_nil e).symm⟩, rfl, rfl⟩
    cases intents with
    | nil => cases h.1
    | cons intent rest => exact ⟨⟨exclusions, runs, all⟩, rfl, rfl⟩
  · rintro ⟨⟨exclusions, runs, all⟩, rfl, rfl⟩
    cases intents with
    | nil =>
      rw [chunksOf_nil, List.map_eq_nil_iff] at all
      subst all
      exact ⟨rfl, rfl⟩
    | cons intent rest => exact processRegistrations_of_runs (List.cons_ne_nil _ _) runs all

/-- What is made of a call is what is made of its intents without repetition, one by one. -/
theorem share_eq (call : FinishedCall e intents) (hold : c.Hold e call.exchanges) :
    call.share = Share.flat ((dedup SignedRegistration.pubkey intents).map (c.share e)) := by
  have whole : (call.runs.map (·.chunk)).flatten = dedup SignedRegistration.pubkey intents := by
    rw [call.covers, flatten_chunksOf]
  rw [← whole]
  obtain ⟨exclusions, runs, covers⟩ := call
  cases intents with
  | nil =>
    -- no exclusions were asked for, but there are no chunks either
    rw [chunksOf_nil, List.map_eq_nil_iff] at covers
    subst covers
    rfl
  | cons intent rest =>
    obtain rfl := hold.exclusions exclusions (by simp [exchanges])
    refine share_runs runs (hold.mono ⟨[⟨.acquire .session, ()⟩, ⟨.exclusions, c.table⟩],
      [⟨.release .session, ()⟩], ?_⟩)
    simp [exchanges]

/-- What is made of some of the identities. -/
theorem among_share (call : FinishedCall e intents) (hold : c.Hold e call.exchanges)
    (p : PublicKey → Bool) :
    call.share.among p = Share.flat ((dedup SignedRegistration.pubkey
      (intents.filter fun intent => p intent.pubkey)).map (c.share e)) := by
  have own (intent : SignedRegistration) : (c.share e intent).IsOf intent.pubkey :=
    c.signers.isOf_share e _ _ intent
  rw [call.share_eq hold, Share.among_flat_map own, filter_dedup]

end FinishedCall

/-- In given circumstances a call does not fail. -/
theorem processRegistrations_of_hold {intents : List SignedRegistration}
    {r : Except Error (List ReconciliationResult)}
    (h : (e.processRegistrations intents).Yields t r) (hold : c.Hold e t) :
    ∃ results, r = .ok results := by
  cases r with
  | ok results => exact ⟨results, rfl⟩
  | error err =>
    obtain ⟨exclusions, runs, chunk, later, reading, -, rfl, failed⟩ := processRegistrations_error h
    have inside : reading <:+: ⟨.acquire .session, ()⟩ :: ⟨.exclusions, exclusions⟩ ::
        (runs.flatMap (·.exchanges) ++ reading ++ [⟨.release .session, ()⟩]) :=
      ⟨⟨.acquire .session, ()⟩ :: ⟨.exclusions, exclusions⟩ :: runs.flatMap (·.exchanges),
        [⟨.release .session, ()⟩], by simp⟩
    obtain ⟨statuses, told, -⟩ := readStatuses_of_hold (hold.mono inside) failed
    cases told

/-! ## Isolation -/

/-- In given circumstances, what a call makes of its intents is made of each of them on its own, as
a call for it alone would do. So it does not depend on the size of the chunks, and what it makes of
some identities does not depend on the others: neither on whether they are among the intents nor
on what is answered for them. -/
theorem processRegistrations_isolated {intents : List SignedRegistration}
    {r : Except Error (List ReconciliationResult)}
    (h : (e.processRegistrations intents).Yields t r) (hold : c.Hold e t) :
    (∃ call : FinishedCall e intents, call.exchanges = t ∧ r = .ok call.results) ∧
    ∀ call : FinishedCall e intents, call.exchanges = t →
      call.share = Share.flat ((dedup SignedRegistration.pubkey intents).map (c.share e)) ∧
      (∀ single : SignedRegistration → Share,
        (∀ intent ∈ dedup SignedRegistration.pubkey intents, ∃ e' : Engine, e.Alike e' ∧
          ∃ alone : FinishedCall e' [intent], c.Hold e' alone.exchanges ∧
            alone.share = single intent) →
        call.share = Share.flat ((dedup SignedRegistration.pubkey intents).map single)) ∧
      (∀ (e' : Engine) (other : FinishedCall e' intents), e.Alike e' → c.Hold e' other.exchanges →
        other.share = call.share) ∧
      ∀ (p : PublicKey → Bool) (c' : Circumstances) (e' : Engine)
        (intents' : List SignedRegistration) (other : FinishedCall e' intents'),
        e.Alike e' → c'.Hold e' other.exchanges → (∀ k, p k = true → c.AgreeOn c' k) →
        (intents'.filter fun intent => p intent.pubkey) =
          (intents.filter fun intent => p intent.pubkey) →
        other.share.among p = call.share.among p := by
  obtain ⟨results, rfl⟩ := processRegistrations_of_hold h hold
  refine ⟨?_, fun call hcall => ?_⟩
  · obtain ⟨call, rfl, rfl⟩ := FinishedCall.yields_iff.1 h
    exact ⟨call, rfl, rfl⟩
  subst hcall
  refine ⟨call.share_eq hold, fun single singles => ?_, fun e' other alike hold' => ?_,
    fun p c' e' intents' other alike hold' agree same => ?_⟩
  · rw [call.share_eq hold]
    refine congrArg Share.flat (List.map_congr_left fun intent hintent => ?_)
    obtain ⟨e', alike, alone, hold', made⟩ := singles intent hintent
    have one : dedup SignedRegistration.pubkey [intent] = [intent] := rfl
    rw [← made, alone.share_eq hold', one, List.map_singleton, Share.flat_singleton]
    exact Circumstances.share_congr alike (.refl c _)
  · rw [call.share_eq hold, other.share_eq hold']
    refine congrArg Share.flat (List.map_congr_left fun intent _ => ?_)
    exact (Circumstances.share_congr alike (.refl c _)).symm
  · rw [call.among_share hold, other.among_share hold', same]
    refine congrArg Share.flat (List.map_congr_left fun intent hintent => ?_)
    rw [← filter_dedup] at hintent
    exact (Circumstances.share_congr alike (agree _ (List.mem_filter.1 hintent).2)).symm

/-- What the sample engine finds outside itself: nobody is registered, one identity is excluded, and
nobody signs. -/
def sampleCircumstances : Circumstances where
  statuses _ := .empty
  table := Gateway.sampleExclusions
  signers := absentSigners

theorem hold_takingNode {α : Type} (p : Program α) (pool : List Bytes) :
    sampleCircumstances.Hold freshEngine (p.transcript (Gateway.takingNode false) pool) := by
  have told {x : Exchange} (hx : x ∈ p.transcript (Gateway.takingNode false) pool) :
      ∃ pool, x.answer = (Gateway.takingNode false x.question pool).1 := by
    obtain ⟨t, u, ht⟩ := List.append_of_mem hx
    exact ⟨_, transcript_answer _ p pool ht⟩
  refine ⟨fun keys a u answer _ _ h => ?_, fun answer hx => ?_, fun answer hx => ?_,
    fun m answer hx => ?_, fun r representative answer hx => ?_⟩
  · obtain ⟨-, rfl⟩ := h
    exact ⟨_, rfl, fun _ _ => rfl⟩
  all_goals
    obtain ⟨pool, same⟩ := told hx
    exact same

/-- The sample call makes rows of one identity and leaves out the other one, as every call for the
same intents does in the same circumstances. -/
theorem processRegistrations_isolated_sample :
    ∃ (t : List Exchange) (results : List ReconciliationResult)
      (call : FinishedCall freshEngine sampleIntents),
      (freshEngine.processRegistrations sampleIntents).Yields t (.ok results) ∧
      sampleCircumstances.Hold freshEngine t ∧ call.exchanges = t ∧
      call.share = ⟨samplePlan, [], [((sampleIntent 1).pubkey, .excluded)]⟩ ∧
      ∀ (e' : Engine) (other : FinishedCall e' sampleIntents), freshEngine.Alike e' →
        sampleCircumstances.Hold e' other.exchanges →
        other.share = ⟨samplePlan, [], [((sampleIntent 1).pubkey, .excluded)]⟩ := by
  obtain ⟨raw, signed⟩ := sampleCall_signed
  have yields := yields_transcript (Gateway.takingNode false) _ []
    (congrArg Prod.fst (run_processRegistrations_sample signed))
  have hold := hold_takingNode (freshEngine.processRegistrations sampleIntents) []
  obtain ⟨⟨call, hcall, -⟩, isolated⟩ := processRegistrations_isolated yields hold
  obtain ⟨made, -, alike, -⟩ := isolated call hcall
  exact ⟨_, _, call, yields, hold, hcall, made, fun e' other h hold' =>
    (alike e' other h hold').trans made⟩

end Engine

end Registrar
