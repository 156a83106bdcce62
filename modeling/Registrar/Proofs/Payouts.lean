import Registrar.Proofs.SettlingNode
import Registrar.Proofs.Soundness

/-! Payout recipients and the signatures beside them: what the payout policy makes of an intent, and
that a recipient never stands in a row with a signature for another one when messages can be signed
anew. -/
namespace Registrar
set_option autoImplicit false

open Contract
open Program

/-! ## The key listing -/

/-- The answer to a question for the keys that the remote signer holds. -/
def Exchange.listing? : Exchange → Option (Except Error (List PublicKey))
  | ⟨.listKeys, answer⟩ => some answer
  | _ => none

def listings (t : List Exchange) : List (Except Error (List PublicKey)) :=
  t.filterMap (·.listing?)

/-- The remote signer was asked for its keys, and this one was among them. -/
def Listed (t : List Exchange) (k : PublicKey) : Prop :=
  ∃ keys, ⟨.listKeys, .ok keys⟩ ∈ t ∧ k ∈ keys

theorem listings_append (t u : List Exchange) : listings (t ++ u) = listings t ++ listings u :=
  List.filterMap_append

theorem mem_listings {t : List Exchange} {answer : Except Error (List PublicKey)} :
    answer ∈ listings t ↔ ⟨.listKeys, answer⟩ ∈ t := by
  rw [listings, List.mem_filterMap]
  constructor
  · rintro ⟨x, hx, same⟩
    unfold Exchange.listing? at same
    split at same
    · cases same
      exact hx
    · cases same
  · intro hx
    exact ⟨_, hx, rfl⟩

namespace Engine

/-- The keys in an answer; none when it is an error. -/
def keysIn : Except Error (List PublicKey) → List PublicKey
  | .ok keys => keys
  | .error _ => []

/-- The listing that is known is the one answer in the exchanges, if there was one. -/
def Knows (t : List Exchange) (listing : Listing) : Prop :=
  (listings t).map keysIn = listing.toList

theorem knows_nil : Knows [] none := rfl

theorem Knows.append {t u : List Exchange} {listing : Listing} (h : Knows t listing)
    (silent : listings u = []) : Knows (t ++ u) listing := by
  rw [Knows, listings_append, silent, List.append_nil]
  exact h

theorem Knows.length_le {t : List Exchange} {listing : Listing} (h : Knows t listing) :
    (listings t).length ≤ 1 := by
  have length := congrArg List.length h
  rw [List.length_map] at length
  rw [length]
  cases listing with
  | none => exact Nat.zero_le 1
  | some keys => exact Nat.le_refl 1

theorem Knows.listed_iff {t : List Exchange} {keys : List PublicKey} (h : Knows t (some keys))
    (k : PublicKey) : Listed t k ↔ k ∈ keys := by
  obtain ⟨answer, one, rfl⟩ : ∃ answer, listings t = [answer] ∧ keysIn answer = keys :=
    List.map_eq_singleton_iff.1 h
  have asked {answer' : Except Error (List PublicKey)} :
      ⟨.listKeys, answer'⟩ ∈ t ↔ answer' = answer := by
    rw [← mem_listings, one, List.mem_singleton]
  constructor
  · rintro ⟨keys, hx, hk⟩
    rw [← asked.1 hx]
    exact hk
  · intro hk
    cases answer with
    | error err => exact absurd hk List.not_mem_nil
    | ok keys => exact ⟨keys, asked.2 rfl, hk⟩

/-- The remote signer is asked for its keys only as long as they are not known. -/
theorem listed_knows {listing : Listing} {t u : List Exchange} {keys : List PublicKey}
    (h : (listed listing).Yields u keys) (known : Knows t listing) :
    Knows (t ++ u) (some keys) ∧ ∀ keys' ∈ listing, keys' = keys := by
  cases listing with
  | some keys' =>
    obtain ⟨rfl, rfl⟩ := h
    rw [List.append_nil]
    exact ⟨known, fun keys' hk => (Option.some.inj hk).symm⟩
  | none =>
    obtain ⟨answer, u, rfl, h⟩ := h
    obtain ⟨rfl, rfl⟩ : u = [] ∧ keys = keysIn answer := by
      cases answer <;> exact h
    refine ⟨?_, nofun⟩
    rw [Knows, listings_append, List.map_append, known]
    rfl

variable {e : Engine} {exclusions : ExclusionTable} {statuses : StatusSnapshot}
  {intent : SignedRegistration} {t u : List Exchange}

/-! ## The payout policy -/

/-- What the policy makes of an intent, with the listing that is known by then. -/
inductive Sourced (e : Engine) (exclusions : ExclusionTable) (statuses : StatusSnapshot)
    (t : List Exchange) (listing : Listing) (intent : SignedRegistration) :
    PreparedRegistration → Prop
  | kept (h : e.overrideFor exclusions statuses intent = none) :
    Sourced e exclusions statuses t listing intent (.unchanged intent)
  | replaced (payout : Address) (h : e.overrideFor exclusions statuses intent = some payout)
      (unable : e.canResign = false) :
    Sourced e exclusions statuses t listing intent ⟨intent, payout, .override⟩
  | resigned (payout : Address) (keys : List PublicKey) (signed : SignedRegistration)
      (h : e.overrideFor exclusions statuses intent = some payout) (able : e.canResign = true)
      (known : listing = some keys) (own : intent.pubkey ∈ keys)
      (answered : ⟨.signRegistration { intent.message with feeRecipient := payout },
        .ok signed⟩ ∈ t)
      (same : signed.message = { intent.message with feeRecipient := payout }) :
    Sourced e exclusions statuses t listing intent ⟨signed, payout, .overrideResigned⟩
  | foreign (payout : Address) (keys : List PublicKey)
      (h : e.overrideFor exclusions statuses intent = some payout) (able : e.canResign = true)
      (known : listing = some keys) (other : intent.pubkey ∉ keys) :
    Sourced e exclusions statuses t listing intent (.unchanged intent)

theorem Sourced.mono {listing listing' : Listing} {prepared : PreparedRegistration}
    (h : Sourced e exclusions statuses t listing intent prepared) (ht : t ⊆ u)
    (hl : ∀ keys ∈ listing, listing' = some keys) :
    Sourced e exclusions statuses u listing' intent prepared := by
  cases h with
  | kept h => exact .kept h
  | replaced payout h unable => exact .replaced payout h unable
  | resigned payout keys signed h able known own answered same =>
    exact .resigned payout keys signed h able (hl keys known) own (ht answered) same
  | foreign payout keys h able known other =>
    exact .foreign payout keys h able (hl keys known) other

theorem Sourced.pubkey {listing : Listing} {prepared : PreparedRegistration}
    (h : Sourced e exclusions statuses t listing intent prepared) :
    prepared.pubkey = intent.pubkey := by
  cases h with
  | kept h => rfl
  | replaced payout h unable => rfl
  | resigned payout keys signed h able known own answered same =>
    rw [PreparedRegistration.pubkey, SignedRegistration.pubkey, same]
    rfl
  | foreign payout keys h able known other => rfl

theorem resign_sourced {payout : Address} {prepared : Option PreparedRegistration}
    (h : (resign intent payout).Yields u prepared) :
    listings u = [] ∧ ∀ p ∈ prepared, ∃ signed : SignedRegistration,
      p = ⟨signed, payout, .overrideResigned⟩ ∧
      ⟨.signRegistration { intent.message with feeRecipient := payout }, .ok signed⟩ ∈ u ∧
      signed.message = { intent.message with feeRecipient := payout } := by
  unfold resign at h
  obtain ⟨answer, u, rfl, h⟩ := h
  cases answer with
  | error err =>
    obtain ⟨⟨⟩, u, rfl, rfl, rfl⟩ := h
    exact ⟨rfl, nofun⟩
  | ok signed =>
    simp only [Program.bind] at h
    by_cases same : signed.message = { intent.message with feeRecipient := payout }
    · rw [if_pos same] at h
      obtain ⟨rfl, rfl⟩ := h
      refine ⟨rfl, fun p hp => ⟨signed, (Option.some.inj hp).symm, by simp, same⟩⟩
    · rw [if_neg same] at h
      obtain ⟨⟨⟩, u, rfl, rfl, rfl⟩ := h
      exact ⟨rfl, nofun⟩

theorem prepareOne_sourced {listing listing' : Listing} {prepared : Option PreparedRegistration}
    (h : (e.prepareOne exclusions statuses intent listing).Yields u (prepared, listing'))
    (known : Knows t listing) :
    Knows (t ++ u) listing' ∧ (∀ keys ∈ listing, listing' = some keys) ∧
      ∀ p ∈ prepared, Sourced e exclusions statuses u listing' intent p := by
  unfold prepareOne at h
  cases replaced : e.overrideFor exclusions statuses intent with
  | none =>
    rw [replaced] at h
    obtain ⟨rfl, h⟩ := h
    cases h
    refine ⟨known.append rfl, fun keys hk => hk, fun p hp => ?_⟩
    obtain rfl := Option.some.inj hp
    exact .kept replaced
  | some payout =>
  rw [replaced] at h
  dsimp only at h
  by_cases unable : (!e.canResign) = true
  · rw [if_pos unable] at h
    obtain ⟨rfl, h⟩ := h
    cases h
    refine ⟨known.append rfl, fun keys hk => hk, fun p hp => ?_⟩
    obtain rfl := Option.some.inj hp
    exact .replaced payout replaced (by simpa using unable)
  -- Only here is the listing needed; it is asked for unless an earlier intent had it asked for.
  have able : e.canResign = true := by simpa using unable
  rw [if_neg unable, yields_monad_bind] at h
  obtain ⟨u, v, keys, rfl, asking, h⟩ := h
  obtain ⟨knows, same⟩ := listed_knows asking known
  have stays : ∀ keys' ∈ listing, some keys = some keys' := fun keys' hk => by rw [same keys' hk]
  split at h
  · rename_i own
    rw [yields_monad_bind] at h
    obtain ⟨v, w, signed, rfl, signing, rfl, h⟩ := h
    cases h
    obtain ⟨silent, sources⟩ := resign_sourced signing
    rw [List.append_nil, ← List.append_assoc]
    refine ⟨knows.append silent, stays, fun p hp => ?_⟩
    obtain ⟨signed, rfl, answered, same⟩ := sources p hp
    exact .resigned payout keys signed replaced able rfl (List.contains_iff_mem.1 own)
      (List.mem_append_right _ answered) same
  · rename_i other
    obtain ⟨rfl, h⟩ := h
    cases h
    rw [List.append_nil]
    refine ⟨knows, stays, fun p hp => ?_⟩
    obtain rfl := Option.some.inj hp
    exact .foreign payout keys replaced able rfl fun own => other (List.contains_iff_mem.2 own)

/-- Every prepared registration comes from an intent of the chunk, and the remote signer is asked
for its keys once at most. -/
theorem prepareFrom_sourced {chunk : List SignedRegistration} {listing : Listing}
    {ready : List PreparedRegistration}
    (h : (e.prepareFrom exclusions statuses chunk listing).Yields u ready)
    (known : Knows t listing) :
    ∃ last, Knows (t ++ u) last ∧ (∀ keys ∈ listing, last = some keys) ∧
      ∀ p ∈ ready, ∃ intent ∈ chunk, Sourced e exclusions statuses u last intent p := by
  induction chunk generalizing listing t u ready with
  | nil =>
    obtain ⟨rfl, rfl⟩ := h
    exact ⟨listing, known.append rfl, fun keys hk => hk, fun p hp => absurd hp List.not_mem_nil⟩
  | cons intent rest ih =>
    rw [prepareFrom, yields_monad_bind] at h
    obtain ⟨u, v, ⟨first, listing'⟩, rfl, h₁, h⟩ := h
    obtain ⟨v, w, others, rfl, h₂, rfl, rfl⟩ := yields_monad_bind.1 h
    obtain ⟨knows, stays, own⟩ := prepareOne_sourced h₁ known
    obtain ⟨last, knows', stays', sources⟩ := ih h₂ knows
    rw [List.append_nil, ← List.append_assoc]
    refine ⟨last, knows', fun keys hk => stays' keys (stays keys hk), fun p hp => ?_⟩
    obtain hp | hp := List.mem_append.1 hp
    · have sourced := own p (Option.mem_toList.1 hp)
      exact ⟨intent, List.mem_cons_self, sourced.mono (List.subset_append_left ..) stays'⟩
    · obtain ⟨intent', hi, sourced⟩ := sources p hp
      exact ⟨intent', List.mem_cons_of_mem _ hi,
        sourced.mono (List.subset_append_right ..) fun keys hk => hk⟩

/-! ## Who is asked for a secondary signature -/

/-- The secondary signer is asked about nothing but the registrations that were prepared. -/
def Concerns (prepared : List PreparedRegistration) (q : Ask) : Prop :=
  ∀ registration representative, q = .authorize registration representative →
    ∃ p ∈ prepared, registration = p.registration

theorem reconcile_concerns (r : Reconciler) (exclusions : ExclusionTable)
    (statuses : StatusSnapshot) (chunk : List PreparedRegistration) :
    (r.reconcile exclusions statuses chunk).Asks (Concerns chunk) := by
  refine reconcile_asks fun prepared hp => planOne_asks nofun (fun reason => nofun) ?_
  intro representative registration representative' same
  cases same
  exact ⟨prepared, hp, rfl⟩

/-! ## Rows of the registry's batch -/

/-- Of an identity that is going to be registered, the recipient is to be replaced whenever the
override names another one. -/
theorem overrideFor_of_registrable (h : Reconciler.Registrable exclusions statuses intent.pubkey)
    (payout : Address) : e.overrideFor exclusions statuses intent = some payout ↔
      e.settings.payoutOverride = some payout ∧ payout ≠ intent.message.feeRecipient := by
  have candidate : ((statuses.identity intent.pubkey).registry.isUnregistered
      && !(exclusions.entry intent.pubkey).registry) = true := by
    rw [Bool.and_eq_true]
    exact ⟨h.unregistered, by rw [h.admitted]; rfl⟩
  unfold overrideFor
  cases e.settings.payoutOverride with
  | none => simp
  | some other =>
    by_cases same : other = intent.message.feeRecipient
    · simp only [candidate, same]
      simp
      rintro rfl
      rfl
    · simp only [candidate, same]
      simp
      rintro rfl
      exact same

/-- The row of an intent is what the payout policy calls for. -/
structure Pays (e : Engine) (t : List Exchange) (intent : SignedRegistration)
    (row : Registry.Entry) : Prop where
  gasLimit : row.gasLimit = intent.message.gasLimit
  timestamp : row.timestamp = intent.message.timestamp
  kept : (∀ payout ∈ e.settings.payoutOverride, payout = intent.message.feeRecipient) →
    row.payoutRecipient = intent.message.feeRecipient ∧ row.signature = intent.signature
  replaced : ∀ payout ∈ e.settings.payoutOverride, payout ≠ intent.message.feeRecipient →
    e.canResign = false → row.payoutRecipient = payout ∧ row.signature = intent.signature
  resigned : ∀ payout ∈ e.settings.payoutOverride, payout ≠ intent.message.feeRecipient →
    e.canResign = true → Listed t intent.pubkey →
      row.payoutRecipient = payout ∧ ∃ signed : SignedRegistration,
        ⟨.signRegistration { intent.message with feeRecipient := payout }, .ok signed⟩ ∈ t ∧
        signed.message = { intent.message with feeRecipient := payout } ∧
        row.signature = signed.signature
  foreign : ∀ payout ∈ e.settings.payoutOverride, payout ≠ intent.message.feeRecipient →
    e.canResign = true → ¬Listed t intent.pubkey →
      row.payoutRecipient = intent.message.feeRecipient ∧ row.signature = intent.signature

/-- The row that a prepared registration makes up. -/
def rowOf (prepared : PreparedRegistration) : Registry.Entry :=
  ⟨prepared.pubkey, prepared.payoutRecipient, prepared.registration.message.gasLimit,
    prepared.registration.message.timestamp, prepared.registration.signature⟩

theorem Sourced.pays {listing : Listing} {prepared : PreparedRegistration}
    (h : Sourced e exclusions statuses t listing intent prepared) (known : Knows t listing)
    (registrable : Reconciler.Registrable exclusions statuses intent.pubkey) :
    Pays e t intent (rowOf prepared) := by
  have due (payout : Address) (hp : payout ∈ e.settings.payoutOverride)
      (ne : payout ≠ intent.message.feeRecipient) :
      e.overrideFor exclusions statuses intent = some payout :=
    (overrideFor_of_registrable registrable payout).2 ⟨hp, ne⟩
  have differs {payout : Address} (h : e.overrideFor exclusions statuses intent = some payout) :
      ¬∀ payout ∈ e.settings.payoutOverride, payout = intent.message.feeRecipient := fun all =>
    have ⟨hp, ne⟩ := (overrideFor_of_registrable registrable payout).1 h
    ne (all payout hp)
  cases h with
  | kept h =>
    have undue {payout : Address} (hp : payout ∈ e.settings.payoutOverride)
        (ne : payout ≠ intent.message.feeRecipient) : False := by
      cases h.symm.trans (due payout hp ne)
    exact ⟨rfl, rfl, fun _ => ⟨rfl, rfl⟩, fun _ hp ne => (undue hp ne).elim,
      fun _ hp ne => (undue hp ne).elim, fun _ hp ne => (undue hp ne).elim⟩
  | replaced payout h unable =>
    refine ⟨rfl, rfl, fun all => absurd all (differs h), fun payout' hp ne _ => ?_,
      fun _ _ _ able => ?_, fun _ _ _ able => ?_⟩
    · cases h.symm.trans (due payout' hp ne)
      exact ⟨rfl, rfl⟩
    · cases unable.symm.trans able
    · cases unable.symm.trans able
  | resigned payout keys signed h able listing own answered same =>
    subst listing
    have gas : signed.message.gasLimit = intent.message.gasLimit := by rw [same]
    have time : signed.message.timestamp = intent.message.timestamp := by rw [same]
    refine ⟨gas, time, fun all => absurd all (differs h), fun _ _ _ unable => ?_,
      fun payout' hp ne _ _ => ?_, fun _ _ _ _ unlisted => ?_⟩
    · cases unable.symm.trans able
    · cases h.symm.trans (due payout' hp ne)
      exact ⟨rfl, signed, answered, same, rfl⟩
    · exact absurd ((known.listed_iff _).2 own) unlisted
  | foreign payout keys h able listing other =>
    subst listing
    refine ⟨rfl, rfl, fun _ => ⟨rfl, rfl⟩, fun _ _ _ unable => ?_, fun _ _ _ _ listed => ?_,
      fun _ _ _ _ _ => ⟨rfl, rfl⟩⟩
    · cases unable.symm.trans able
    · exact absurd ((known.listed_iff _).1 listed) other

/-- The registration that a prepared one carries is signed as it stands, by the validator or by the
remote signer, and names the recipient whenever there is a remote signer. -/
theorem Sourced.covered {listing : Listing} {prepared : PreparedRegistration}
    (h : Sourced e exclusions statuses t listing intent prepared) :
    (prepared.registration = intent ∨
        ⟨.signRegistration prepared.registration.message, .ok prepared.registration⟩ ∈ t) ∧
      (e.canResign = true →
        prepared.registration.message.feeRecipient = prepared.payoutRecipient) := by
  cases h with
  | kept h => exact ⟨.inl rfl, fun _ => rfl⟩
  | replaced payout h unable => exact ⟨.inl rfl, fun able => nomatch unable.symm.trans able⟩
  | resigned payout keys signed h able listing own answered same =>
    rw [← same] at answered
    exact ⟨.inr answered, fun _ => by rw [same]⟩
  | foreign payout keys h able listing other => exact ⟨.inl rfl, fun _ => rfl⟩

/-- The registration whose signature stands in a row of a chunk, and what else was asked and told
about its identity. -/
structure Backs (run : ChunkRun e exclusions) (registration : SignedRegistration)
    (row : Registry.Entry) : Prop where
  pubkey : registration.pubkey = row.pubkey
  signature : registration.signature = row.signature
  origin : registration ∈ run.chunk ∨
    ⟨.signRegistration registration.message, .ok registration⟩ ∈ run.preparing
  covered : e.canResign = true → registration.message.feeRecipient = row.payoutRecipient
  authorized : ∀ other representative answer,
    ⟨.authorize other representative, answer⟩ ∈ run.planning → other.pubkey = row.pubkey →
      other = registration
  delegated : ∀ entry ∈ run.plan.delegationBatch, entry.pubkey = row.pubkey →
    entry.payoutRecipient = row.payoutRecipient ∧
      ⟨.authorize registration e.signer, .ok entry.signature⟩ ∈ run.planning
  reported : ∃ result ∈ run.plan.results, result.pubkey = row.pubkey
  told : ∀ result ∈ run.plan.results, result.pubkey = row.pubkey →
    result.payoutRecipient = row.payoutRecipient

/-- Of an identity that is to be registered, the intended recipient is told. -/
theorem parties_of_fresh (signer intended : Address) {state : IdentityState}
    (fresh : state.needsRegistration = true) :
    Plan.parties signer intended state = (signer, intended) := by
  cases state with
  | unregistered delegate => rfl
  | _ => cases fresh

namespace ChunkRun

variable {intents : List SignedRegistration}

theorem nodup_prepared (run : ChunkRun e exclusions) (hchunk : run.chunk ∈ e.chunksOf intents) :
    (run.prepared.map (·.pubkey)).Nodup :=
  (prepare_accounts run.prepares).sublist.nodup (nodup_of_mem_chunksOf hchunk)

/-- The registrations that the secondary signer is asked about are the prepared ones, one for each
identity. -/
theorem eq_of_authorize (run : ChunkRun e exclusions) (hchunk : run.chunk ∈ e.chunksOf intents)
    {prepared : PreparedRegistration} (hp : prepared ∈ run.prepared)
    {registration : SignedRegistration} {representative : Address}
    {answer : Except Error EcdsaSignature}
    (asked : ⟨.authorize registration representative, answer⟩ ∈ run.planning)
    (key : registration.pubkey = prepared.pubkey) : registration = prepared.registration := by
  have concerns := (reconcile_concerns e.reconciler exclusions run.statuses
    run.prepared).question_of_yields run.plans _ asked
  obtain ⟨other, hother, rfl⟩ := concerns registration representative rfl
  rw [List.inj_on_of_nodup_map (run.nodup_prepared hchunk) hother hp key]

/-- A row is made up by one of the prepared registrations, and its identity is reported. -/
theorem origin_of_row (run : ChunkRun e exclusions) {row : Registry.Entry}
    (hrow : row ∈ run.plan.registryBatch) :
    ∃ prepared ∈ run.prepared, row = rowOf prepared ∧
      ∃ result ∈ run.plan.results, result.pubkey = prepared.pubkey := by
  obtain ⟨parts, hparts, -, results, registry, -⟩ := Reconciler.reconcile_parts run.plans
  rw [registry, List.mem_flatMap] at hrow
  obtain ⟨part, hpart, hrow⟩ := hrow
  obtain empty | ⟨secondary, -, -, -, rows⟩ := part.planned.empty_or_rows
  · rw [empty] at hrow
    exact absurd hrow List.not_mem_nil
  rw [rows, Reconciler.registryBatch_rows] at hrow
  split at hrow
  case isFalse => exact absurd hrow List.not_mem_nil
  rename_i fresh
  refine ⟨part.prepared, hparts ▸ List.mem_map_of_mem hpart, ?_, ?_⟩
  · rw [List.mem_singleton.1 hrow, parties_of_fresh _ _ fresh]
    rfl
  · have told : part.plan.results.map (·.pubkey) = [part.prepared.pubkey] := by
      rw [rows, Reconciler.results_rows, List.map_singleton, Plan.resultFor_pubkey]
    have own : part.prepared.pubkey ∈ part.plan.results.map (·.pubkey) := by
      rw [told]
      exact List.mem_singleton_self _
    obtain ⟨result, hresult, same⟩ := List.mem_map.1 own
    rw [results]
    exact ⟨result, List.mem_flatMap.2 ⟨part, hpart, hresult⟩, same⟩

/-- In every chunk of every call, whatever the remote signer lists, signs and refuses: it is asked
for its keys once at most, each row for the registry is what the payout policy makes of the one
intent of its identity, and its signature is over a registration that, when there is a remote
signer, names the very recipient in the row. The secondary signer is asked about that registration
and no other one of the identity, and the row for the ledger and the result name the same
recipient. -/
theorem batch_pays (run : ChunkRun e exclusions) (hchunk : run.chunk ∈ e.chunksOf intents) :
    (listings run.preparing).length ≤ 1 ∧
      ∀ row ∈ run.plan.registryBatch, ∃ intent ∈ run.chunk, intent.pubkey = row.pubkey ∧
        (∀ other ∈ run.chunk, other.pubkey = row.pubkey → other = intent) ∧
        Pays e run.preparing intent row ∧ ∃ registration, Backs run registration row := by
  obtain ⟨last, knows, -, sources⟩ :=
    prepareFrom_sourced run.prepares knows_nil
  rw [List.nil_append] at knows
  refine ⟨knows.length_le, fun row hrow => ?_⟩
  have registrable := (Reconciler.reconcile_rows run.plans).1 row hrow
  obtain ⟨prepared, hp, rfl, result, hresult, reported⟩ := run.origin_of_row hrow
  obtain ⟨intent, hi, sourced⟩ := sources prepared hp
  have key : intent.pubkey = prepared.pubkey := sourced.pubkey.symm
  obtain ⟨origin, covered⟩ := sourced.covered
  have foretold := Reconciler.reconcile_foretold run.plans (run.nodup_prepared hchunk)
  refine ⟨intent, hi, key, fun other ho same => ?_, sourced.pays knows (key ▸ registrable),
    prepared.registration, ?_⟩
  · exact List.inj_on_of_nodup_map (nodup_of_mem_chunksOf hchunk) ho hi (same.trans key.symm)
  · refine ⟨rfl, rfl, ?origin, covered, ?authorized, ?delegated, ⟨result, hresult, reported⟩, ?told⟩
    case origin =>
      obtain own | answered := origin
      · exact .inl (own ▸ hi)
      · exact .inr answered
    case authorized =>
      intro other representative answer asked same
      exact run.eq_of_authorize hchunk hp asked same
    case delegated =>
      intro entry hentry same
      obtain ⟨registration, own, asked⟩ :=
        ((Reconciler.reconcile_rows run.plans).2 entry hentry).signed
      obtain rfl := run.eq_of_authorize hchunk hp asked (own.trans same)
      have told := foretold result hresult
      refine ⟨?_, asked⟩
      rw [told.delegationPayout entry hentry (same.trans reported.symm),
        told.registryPayout _ hrow reported.symm]
    case told =>
      intro other hother same
      exact ((foretold other hother).registryPayout _ hrow same.symm).symm

end ChunkRun

/-! ## A chunk with one key listed and one not -/

/-- An override with both signers at hand, at authorities that know nobody. -/
def resigningEngine : Engine where
  gateway := Gateway.hastyGateway Gateway.sampleKey
  settings :=
    { maxBatchSize := 2, registry := .zero, delegation := some .zero
      payoutOverride := some (.replicate 20 9) }
  statuses := ⟨fun _ _ => .done (.ok .empty), fun _ _ => trivial⟩
  canResign := true
  canAuthorize := true

def resignedIntent : SignedRegistration :=
  ⟨{ (sampleIntent 0).message with feeRecipient := .replicate 20 9 }, .replicate 96 5⟩

def resigningPrepared : List PreparedRegistration :=
  [⟨resignedIntent, .replicate 20 9, .overrideResigned⟩, .unchanged (sampleIntent 1)]

def resigningPreparing : List Exchange :=
  [⟨.listKeys, .ok [(sampleIntent 0).pubkey]⟩,
    ⟨.signRegistration resignedIntent.message, .ok resignedIntent⟩]

def resigningPlanning : List Exchange :=
  [⟨.observe (.classified (sampleIntent 0).pubkey (.unregistered true)), ()⟩,
    ⟨.authorize resignedIntent resigningEngine.signer, .ok ⟨27, .zero, .zero⟩⟩,
    ⟨.observe (.classified (sampleIntent 1).pubkey (.unregistered true)), ()⟩,
    ⟨.authorize (sampleIntent 1) resigningEngine.signer, .ok ⟨28, .zero, .zero⟩⟩]

def resigningPlan : Plan :=
  Plan.rowsFor ⟨resignedIntent, .replicate 20 9, .overrideResigned⟩ (.unregistered true)
      resigningEngine.signer (.replicate 20 9) (some ⟨27, .zero, .zero⟩) ++
    Plan.rowsFor (.unchanged (sampleIntent 1)) (.unregistered true) resigningEngine.signer .zero
      (some ⟨28, .zero, .zero⟩)

def resigningRun : ChunkRun resigningEngine (.empty 0) where
  chunk := [sampleIntent 0, sampleIntent 1]
  statuses := ⟨.empty, some .empty⟩
  prepared := resigningPrepared
  plan := resigningPlan
  reading := []
  preparing := resigningPreparing
  planning := resigningPlanning
  sending := []
  reads := ⟨rfl, rfl⟩
  prepares := ⟨.ok [(sampleIntent 0).pubkey], _, rfl, .ok resignedIntent, _, rfl, rfl, rfl⟩
  plans := ⟨(), _, rfl, .ok ⟨27, .zero, .zero⟩, _, rfl, (), _, rfl, .ok ⟨28, .zero, .zero⟩, [],
    rfl, rfl, rfl⟩
  sends := begins_nil _

/-- Both are registered, each with the recipient that its signature is over. -/
theorem batch_pays_resigning :
    resigningRun.chunk ∈ resigningEngine.chunksOf [sampleIntent 0, sampleIntent 1] ∧
      resigningRun.plan.registryBatch =
        [⟨(sampleIntent 0).pubkey, .replicate 20 9, 0, 0, .replicate 96 5⟩,
          ⟨(sampleIntent 1).pubkey, .zero, 0, 0, .zero⟩] ∧
      (listings resigningRun.preparing).length ≤ 1 ∧
      ∀ row ∈ resigningRun.plan.registryBatch, ∃ intent ∈ resigningRun.chunk,
        intent.pubkey = row.pubkey ∧
        (∀ other ∈ resigningRun.chunk, other.pubkey = row.pubkey → other = intent) ∧
        Pays resigningEngine resigningRun.preparing intent row ∧
        ∃ registration, Backs resigningRun registration row := by
  have chunk : resigningRun.chunk ∈
      resigningEngine.chunksOf [sampleIntent 0, sampleIntent 1] :=
    List.mem_singleton_self _
  exact ⟨chunk, rfl, resigningRun.batch_pays chunk⟩

end Engine

end Registrar
