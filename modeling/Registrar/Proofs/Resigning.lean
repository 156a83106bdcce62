import Registrar.Proofs.Classification
import Registrar.Proofs.Payouts

/-! Signing anew beside the classification. Who is going to be registered is told twice: for the
payout policy by the registry and the exclusions, and for the plan by the ledger as well. The two
agree on every identity but those that the ledger alone knows. -/
namespace Registrar
set_option autoImplicit false

open Program

/-! ## Two ways to tell who is registered -/

section

variable {status : IdentityStatus} {exclusion : Exclusion} {signer : Address}

theorem inconsistent_classify :
    classify status exclusion signer = .inconsistent ↔
      status.registry.isUnregistered = true ∧
        ∃ l, status.delegation = some l ∧ l.isUnregistered = false := by
  cases hr : status.registry.isUnregistered with
  | true =>
    rw [classify_of_unregistered hr, classifyFresh]
    cases status.delegation with
    | none => cases exclusion.registry <;> simp
    | some l => cases hl : l.isUnregistered <;> cases exclusion.registry <;> simp [hl]
  | false =>
    rw [classify_of_registered hr]
    unfold classifyRegistered
    cases status.delegation with
    | none => simp
    | some l =>
      cases hl : l.isUnregistered <;> cases exclusion.nativeDelegation <;>
        by_cases hs : status.registry.representative = signer <;> simp [hl, hs]

/-- Whom the registry does not know is registered, excluded, or known to the ledger alone. -/
theorem unregistered_iff_classify (signer : Address) :
    status.registry.isUnregistered = true ∧ exclusion.registry = false ↔
      (classify status exclusion signer).needsRegistration = true ∨
        classify status exclusion signer = .inconsistent ∧ exclusion.registry = false := by
  rw [needsRegistration_classify, inconsistent_classify]
  constructor
  · rintro ⟨unknown, admitted⟩
    by_cases known : ∃ l, status.delegation = some l ∧ l.isUnregistered = false
    · exact .inr ⟨⟨unknown, known⟩, admitted⟩
    · refine .inl ⟨unknown, fun l hl => ?_, admitted⟩
      exact Bool.of_not_eq_false fun hu => known ⟨l, hl, hu⟩
  · rintro (⟨unknown, -, admitted⟩ | ⟨⟨unknown, -⟩, admitted⟩) <;> exact ⟨unknown, admitted⟩

end

namespace Engine

variable {e : Engine} {exclusions : ExclusionTable} {statuses : StatusSnapshot}
  {intent : SignedRegistration} {chunk : List SignedRegistration} {payout : Address}

/-- The state in which the plan finds an identity. -/
def stateOf (e : Engine) (exclusions : ExclusionTable) (statuses : StatusSnapshot)
    (k : PublicKey) : IdentityState :=
  classify (statuses.identity k) (exclusions.entry k) e.signer

/-- Not excluded from the registry, and known to the ledger alone: the plan leaves the identity out,
and the payout policy takes it for one that is going to be registered. -/
structure Mistaken (e : Engine) (exclusions : ExclusionTable) (statuses : StatusSnapshot)
    (k : PublicKey) : Prop where
  inconsistent : e.stateOf exclusions statuses k = .inconsistent
  admitted : (exclusions.entry k).registry = false

/-- Going to be registered, or taken for it. -/
def Resignable (e : Engine) (exclusions : ExclusionTable) (statuses : StatusSnapshot)
    (k : PublicKey) : Prop :=
  (e.stateOf exclusions statuses k).needsRegistration = true ∨ e.Mistaken exclusions statuses k

theorem overrideFor_eq_some_iff :
    e.overrideFor exclusions statuses intent = some payout ↔
      e.settings.payoutOverride = some payout ∧ payout ≠ intent.message.feeRecipient ∧
        e.Resignable exclusions statuses intent.pubkey := by
  have candidate : ((statuses.identity intent.pubkey).registry.isUnregistered
      && !(exclusions.entry intent.pubkey).registry) = true ↔
      e.Resignable exclusions statuses intent.pubkey := by
    rw [Bool.and_eq_true, Bool.not_eq_true', unregistered_iff_classify e.signer]
    exact or_congr_right ⟨fun h => ⟨h.1, h.2⟩, fun h => ⟨h.1, h.2⟩⟩
  rw [← candidate]
  unfold overrideFor
  cases e.settings.payoutOverride with
  | none => simp
  | some other =>
    dsimp only
    split
    · rename_i unfit
      refine ⟨nofun, ?_⟩
      rintro ⟨⟨⟩, differs, fit⟩
      rw [fit] at unfit
      simp [differs] at unfit
    · rename_i fit
      rw [Bool.not_eq_true, Bool.or_eq_false_iff, decide_eq_false_iff_not, Bool.not_eq_false'] at fit
      constructor
      · rintro ⟨⟩
        exact ⟨rfl, fit.1, fit.2⟩
      · rintro ⟨same, -, -⟩
        exact same

/-! ## What the remote signer is asked -/

/-- Nobody is signed anew, or dropped for want of it, but who is going to be registered or is taken
for it. -/
def Fitting (fit : PublicKey → Prop) : Ask → Prop
  | .signRegistration message => fit message.pubkey
  | .observe (.omitted k .resign) => fit k
  | _ => True

theorem prepare_fitting (e : Engine) (exclusions : ExclusionTable) (statuses : StatusSnapshot)
    (chunk : List SignedRegistration) :
    (e.prepare exclusions statuses chunk).Asks (Fitting (e.Resignable exclusions statuses)) := by
  refine prepare_asks fun intent _ listing => ?_
  cases replaced : e.overrideFor exclusions statuses intent with
  | none =>
    rw [prepareOne, replaced]
    trivial
  | some payout =>
    have fit := (overrideFor_eq_some_iff.1 replaced).2.2
    exact prepareOne_asks trivial (fun _ _ => fit) fit

theorem Sourced.resignable {t : List Exchange} {listing : Listing}
    {prepared : PreparedRegistration}
    (h : Sourced e exclusions statuses t listing intent prepared)
    (resigned : prepared.source = .overrideResigned) :
    e.Resignable exclusions statuses prepared.pubkey := by
  rw [h.pubkey]
  cases h with
  | resigned payout keys signed replaced => exact (overrideFor_eq_some_iff.1 replaced).2.2
  | _ => cases resigned

variable {t u : List Exchange} {listing listing' : Listing}

/-- Whoever is to be replaced and is listed is signed anew, or at least that is asked for. -/
theorem prepareOne_signs {prepared : Option PreparedRegistration}
    (h : (e.prepareOne exclusions statuses intent listing).Yields u (prepared, listing'))
    (replaced : e.overrideFor exclusions statuses intent = some payout)
    (able : e.canResign = true) :
    ∃ keys, listing' = some keys ∧ (intent.pubkey ∈ keys → ∃ answer,
      ⟨.signRegistration { intent.message with feeRecipient := payout }, answer⟩ ∈ u) := by
  rw [prepareOne, replaced] at h
  dsimp only at h
  rw [able, Bool.not_true, if_neg Bool.false_ne_true, yields_monad_bind] at h
  obtain ⟨u, v, keys, rfl, -, h⟩ := h
  by_cases own : keys.contains intent.pubkey = true
  · rw [if_pos own, yields_monad_bind] at h
    obtain ⟨v, w, signed, rfl, ⟨answer, rest, rfl, -⟩, rfl, h⟩ := h
    cases h
    refine ⟨keys, rfl, fun _ => ⟨answer, ?_⟩⟩
    exact List.mem_append_right _ (List.mem_append_left _ List.mem_cons_self)
  · rw [if_neg own] at h
    obtain ⟨rfl, h⟩ := h
    cases h
    exact ⟨keys, rfl, fun listed => absurd (List.contains_iff_mem.2 listed) own⟩

theorem prepareFrom_signs {ready : List PreparedRegistration}
    (h : (e.prepareFrom exclusions statuses chunk listing).Yields u ready)
    (known : Knows t listing) (hi : intent ∈ chunk)
    (replaced : e.overrideFor exclusions statuses intent = some payout)
    (able : e.canResign = true) (listed : Listed (t ++ u) intent.pubkey) :
    ∃ answer, ⟨.signRegistration { intent.message with feeRecipient := payout }, answer⟩ ∈ u := by
  induction chunk generalizing listing t u ready with
  | nil => cases hi
  | cons first rest ih =>
    rw [prepareFrom, yields_monad_bind] at h
    obtain ⟨u, v, ⟨prepared, listing'⟩, rfl, h₁, h⟩ := h
    obtain ⟨v, w, others, rfl, h₂, rfl, rfl⟩ := yields_monad_bind.1 h
    rw [List.append_nil] at listed ⊢
    rw [← List.append_assoc] at listed
    have knows := (prepareOne_sourced h₁ known).1
    obtain rfl | later := List.mem_cons.1 hi
    · obtain ⟨keys, rfl, signs⟩ := prepareOne_signs h₁ replaced able
      -- The keys that are known by now are the ones that stay known.
      obtain ⟨last, knows', stays, -⟩ := prepareFrom_sourced h₂ knows
      rw [stays keys rfl] at knows'
      obtain ⟨answer, asked⟩ := signs ((knows'.listed_iff _).1 listed)
      exact ⟨answer, List.mem_append_left _ asked⟩
    · obtain ⟨answer, asked⟩ := ih h₂ knows later listed
      exact ⟨answer, List.mem_append_right _ asked⟩

/-- In every run of a preparation, to whatever point it comes, the remote signer is asked to sign,
and identities are dropped because it does not, only for identities that are going to be registered
or are mistaken for such, and so it is with the registrations signed anew. And whoever of these is
listed, with another recipient than the override names, is asked for. -/
theorem resigns_resignable (e : Engine) (exclusions : ExclusionTable) (statuses : StatusSnapshot)
    (chunk : List SignedRegistration) :
    (∀ t, (e.prepare exclusions statuses chunk).Begins t →
      (∀ message answer, ⟨.signRegistration message, answer⟩ ∈ t →
        e.Resignable exclusions statuses message.pubkey) ∧
      ∀ k, ⟨.observe (.omitted k .resign), ()⟩ ∈ t → e.Resignable exclusions statuses k) ∧
    ∀ t prepared, (e.prepare exclusions statuses chunk).Yields t prepared →
      (∀ p ∈ prepared, p.source = .overrideResigned →
        e.Resignable exclusions statuses p.pubkey) ∧
      ∀ intent ∈ chunk, ∀ payout ∈ e.settings.payoutOverride,
        payout ≠ intent.message.feeRecipient → e.canResign = true → Listed t intent.pubkey →
          e.Resignable exclusions statuses intent.pubkey → ∃ answer,
            ⟨.signRegistration { intent.message with feeRecipient := payout }, answer⟩ ∈ t := by
  refine ⟨fun t h => ?_, fun t prepared h => ⟨?_, ?_⟩⟩
  · have fitting := (prepare_fitting e exclusions statuses chunk).question_of_begins h
    exact ⟨fun message answer asked => fitting _ asked, fun k dropped => fitting _ dropped⟩
  · intro p hp resigned
    obtain ⟨_, -, -, sources⟩ := prepareFrom_sourced h knows_nil
    obtain ⟨intent, -, sourced⟩ := sources p hp
    exact sourced.resignable resigned
  · intro intent hi payout hp differs able listed fit
    exact prepareFrom_signs h knows_nil hi (overrideFor_eq_some_iff.2 ⟨hp, differs, fit⟩) able
      listed

/-- With nobody known to the ledger, whoever is signed anew is going to be registered. -/
theorem resigns_resignable_fresh :
    (∃ answer, ⟨.signRegistration resignedIntent.message, answer⟩ ∈ resigningPreparing) ∧
      ∀ message answer, ⟨.signRegistration message, answer⟩ ∈ resigningPreparing →
        (resigningEngine.stateOf (.empty 0) ⟨.empty, some .empty⟩
          message.pubkey).needsRegistration = true := by
  obtain ⟨begun, finished⟩ := resigns_resignable resigningEngine (.empty 0)
    ⟨.empty, some .empty⟩ [sampleIntent 0, sampleIntent 1]
  have fresh (k : PublicKey) : resigningEngine.stateOf (.empty 0) ⟨.empty, some .empty⟩ k =
      .unregistered true := rfl
  constructor
  · refine (finished _ _ resigningRun.prepares).2 (sampleIntent 0) List.mem_cons_self
      (.replicate 20 9) rfl (by decide) rfl ⟨_, List.mem_cons_self, by decide⟩ (.inl ?_)
    exact congrArg _ (fresh _)
  · intro message answer asked
    refine ((begun _ resigningRun.prepares.begins).1 message answer asked).resolve_right ?_
    intro mistaken
    exact absurd (mistaken.inconsistent.symm.trans (fresh _)) nofun

/-- An identity that the ledger alone knows is sent to be signed anew, and when that fails it is
dropped for this, and not for being inconsistent. -/
theorem resigns_inconsistent :
    let k := (sampleIntent 0).pubkey
    let statuses : StatusSnapshot :=
      ⟨.empty, some (.ofList [(k, ⟨.active, .replicate 20 0x44, .replicate 20 0x33⟩)])⟩
    resigningEngine.stateOf (.empty 0) statuses k = .inconsistent ∧
      (resigningEngine.prepare (.empty 0) statuses [sampleIntent 0]).Yields
        [⟨.listKeys, .ok [k]⟩,
          ⟨.signRegistration resignedIntent.message, .error (.remoteSigner "sign" "unavailable")⟩,
          ⟨.observe (.omitted k .resign), ()⟩] [] := by
  intro k statuses
  refine ⟨rfl, ?_⟩
  exact ⟨.ok [k], _, rfl, .error (.remoteSigner "sign" "unavailable"), _, rfl, (), _, rfl, rfl, rfl⟩

end Engine

end Registrar
