import Registrar.Proofs.HexText
import Registrar.Proofs.Records
import Registrar.Wire.Outcome

/-! Every value that is written as JSON is read back from its text, and from the text of each other
spelling of it. -/
namespace Registrar
set_option autoImplicit false

open Json (Decoder Shape Printable Reads Respelled quotedNames parse)
open Json.Shape
open Wire

variable {α : Type} {room n : Nat}

/-! ## Scalars -/

namespace Wire

theorem reads_key (x : FixedBytes n) : Reads asKey (hexJson x) x :=
  Json.reads_string (asKey_hexJson x)

theorem reads_bytes (isPassed : Json → Bool) (x : FixedBytes n) :
    Reads (asBytesUnless isPassed) (hexJson x) x :=
  Json.reads_string (asBytesUnless_hexJson isPassed x)

theorem reads_balance (b : BitVec 256) : Reads asBalance (ofBalance b) b :=
  Json.reads_string (asBalance_ofBalance b)

theorem hexJson_ne_null (x : FixedBytes n) : hexJson x ≠ .null :=
  Json.noConfusion

theorem reads_hash (h : Option Word) :
    Reads (Json.asOptional asKeptBytes) (.ofOption hexJson h) h :=
  Json.reads_optional (fun _ => hexJson_ne_null _) (reads_bytes _) h

theorem printable_hexJson (x : FixedBytes n) : Printable room (hexJson x) := .string _

theorem printable_hash (h : Option Word) : Printable room (.ofOption hexJson h) := by
  cases h
  · exact .null
  · exact printable_hexJson _

theorem retainable_hash (h : Option Word) : (Json.ofOption hexJson h).retainable = true := by
  cases h <;> rfl

end Wire

/-! ## Registrations -/

theorem RegistrationMessage.spells (m : RegistrationMessage) :
    shape.Spells
      [("fee_recipient", hexJson m.feeRecipient), ("gas_limit", ofQuotedWord64 m.gasLimit),
        ("timestamp", ofQuotedWord64 m.timestamp), ("pubkey", hexJson m.pubkey)] m where
  names := rfl
  distinct := by decide
  gives := by
    intro found at_
    simp only [List.forall_mem_cons] at at_
    obtain ⟨recipient, gas, time, key, -⟩ := at_
    exact (((Gives.map _ (gives_required recipient (by decide) (reads_bytes _ _))).seq
      (gives_quoted gas)).seq (gives_quoted time)).seq
      (gives_required key (by decide) (reads_key _))

theorem RegistrationMessage.printable (m : RegistrationMessage) :
    Printable (room + 1) m.toJson :=
  .object _ (by simp [hexJson, ofQuotedWord64, Printable.string])

theorem RegistrationMessage.reads (m : RegistrationMessage) : Reads ofJson m.toJson m :=
  m.spells.reads (m.printable : Printable 1 _)

theorem SignedRegistration.spells (r : SignedRegistration) :
    shape.Spells [("message", r.message.toJson), ("signature", hexJson r.signature)] r where
  names := rfl
  distinct := by decide
  gives := by
    intro found at_
    simp only [List.forall_mem_cons] at at_
    obtain ⟨message, signature, -⟩ := at_
    exact (Gives.map _ (gives_required message (by decide) r.message.reads)).seq
      (gives_required signature (by decide) (reads_key _))

theorem SignedRegistration.printable (r : SignedRegistration) : Printable (room + 2) r.toJson :=
  .object _ (by simp [hexJson, Printable.string, r.message.printable])

theorem SignedRegistration.reads (r : SignedRegistration) : Reads ofJson r.toJson r :=
  r.spells.reads (r.printable : Printable 2 _)

/-! ## Representative's signatures and reports -/

theorem EcdsaSignature.spells (s : EcdsaSignature) :
    shape.Spells [("v", .ofNat s.v.toNat), ("r", hexJson s.r), ("s", hexJson s.s)] s where
  names := rfl
  distinct := by decide
  gives := by
    intro found at_
    simp only [List.forall_mem_cons] at at_
    obtain ⟨v, r, s, -⟩ := at_
    exact ((Gives.map _ (gives_required v (by decide) (Json.reads_byte _))).seq
      (gives_required r (by decide) (reads_bytes _ _))).seq
      (gives_required s (by decide) (reads_bytes _ _))

theorem EcdsaSignature.printable (s : EcdsaSignature) : Printable (room + 1) s.toJson :=
  .object _ (by simp [hexJson, Printable.string, Json.printable_ofNat])

theorem EcdsaSignature.reads (s : EcdsaSignature) : Reads ofJson s.toJson s :=
  s.spells.reads (s.printable : Printable 1 _)

theorem DelegationReport.spells (r : DelegationReport) :
    shape.Spells
      [("pubkey", hexJson r.pubkey), ("reported_balance", ofBalance r.reportedBalance),
        ("signature", r.signature.toJson)] r where
  names := rfl
  distinct := by decide
  gives := by
    intro found at_
    simp only [List.forall_mem_cons] at at_
    obtain ⟨key, balance, signature, -⟩ := at_
    exact ((Gives.map _ (gives_required key (by decide) (reads_key _))).seq
      (gives_required balance (by decide) (reads_balance _))).seq
      (gives_required signature (by decide) r.signature.reads)

theorem DelegationReport.printable (r : DelegationReport) : Printable (room + 2) r.toJson :=
  .object _ (by simp [hexJson, ofBalance, Printable.string, r.signature.printable])

theorem DelegationReport.reads (r : DelegationReport) : Reads ofJson r.toJson r :=
  r.spells.reads (r.printable : Printable 2 _)

/-! ## Exclusions -/

theorem ExclusionRecord.spells (r : ExclusionRecord) :
    shape.Spells (("pubkey", hexJson r.pubkey) :: r.exclusion.members) r where
  names := rfl
  distinct := by decide
  gives := by
    intro found at_
    simp only [Exclusion.members, List.forall_mem_cons] at at_
    obtain ⟨key, registry, ledger, -⟩ := at_
    exact (Gives.map _ (gives_required key (by decide) (reads_key _))).seq
      ((Gives.map _ (gives_defaulted registry (by decide) (Json.reads_bool _))).seq
        (gives_defaulted ledger (by decide) (Json.reads_bool _)))

theorem ExclusionRecord.printable (r : ExclusionRecord) : Printable (room + 1) r.toJson :=
  .object _ (by simp [Exclusion.members, hexJson, Printable.string, Printable.bool])

theorem ExclusionRecord.reads (r : ExclusionRecord) : Reads ofJson r.toJson r := by
  intro w spelled
  have read := r.spells.readsObject (r.printable : Printable 1 _) spelled
  have kept := ((r.printable : Printable 1 _).respelled spelled).2 rfl
  obtain ⟨spelled, ordered, rfl, -⟩ := spelled.object_inv
  have whole : Json.retained (.object ordered) = .ok (.object ordered) := if_pos kept
  rw [ofJson, whole]
  exact read

/-! ## Statuses -/

theorem StatusKind.printable (k : StatusKind) : Printable (room + 1) k.toJson := by
  cases k with
  | other code => exact .object _ (by simp [Json.printable_ofNat])
  | _ => exact .string _

theorem StatusKind.reads (k : StatusKind) : Reads ofJson k.toJson k := by
  cases k with
  | other code =>
    intro w spelled
    obtain ⟨v, rfl, value⟩ := Respelled.single spelled (by decide)
    have read : Json.asByte v = .ok code := Json.reads_byte code value
    rw [ofJson, read]
    rfl
  | _ => exact Json.reads_string rfl

theorem AuthorityStatus.spells (s : AuthorityStatus) :
    shape.Spells
      [("status", s.kind.toJson), ("representative", hexJson s.representative),
        ("payout_recipient", hexJson s.payoutRecipient)] s where
  names := rfl
  distinct := by decide
  gives := by
    intro found at_
    simp only [List.forall_mem_cons] at at_
    obtain ⟨kind, representative, recipient, -⟩ := at_
    exact ((Gives.map _ (gives_required kind (by decide) s.kind.reads)).seq
      (gives_required representative (by decide) (reads_bytes _ _))).seq
      (gives_required recipient (by decide) (reads_bytes _ _))

theorem AuthorityStatus.printable (s : AuthorityStatus) : Printable (room + 2) s.toJson :=
  .object _ (by simp [hexJson, Printable.string, s.kind.printable])

theorem AuthorityStatus.reads (s : AuthorityStatus) : Reads ofJson s.toJson s :=
  s.spells.reads (s.printable : Printable 2 _)

/-! ## Tagged values -/

/-- The tag is found wherever it stands, and what is left spells the other members. -/
theorem Wire.splitTag_respelled {tag state : String} {members ordered : List (String × Json)}
    (plain : tag ∉ quotedNames) (untagged : tag ∉ members.map (·.1))
    (spelled : Respelled (.object ((tag, .string state) :: members)) (.object ordered)) :
    splitTag tag (.object ordered) = .ok (state, .object (ordered.filter (·.1 ≠ tag))) ∧
      Respelled (.object members) (.object (ordered.filter (·.1 ≠ tag))) := by
  obtain ⟨whole, _, ⟨⟩, each, order⟩ := spelled.object_inv
  obtain _ | ⟨first, rest⟩ := each
  rename_i w spelled
  have only : ∀ m ∈ spelled, m.1 ≠ tag := fun m hm same =>
    untagged (rest.names ▸ List.mem_map.2 ⟨m, hm, same⟩)
  have value : w = .string state := by
    have string := first.respelled plain
    cases string
    rfl
  subst value
  have tagged : ordered.filter (·.1 = tag) = [(tag, .string state)] := by
    have perm := order.filter (·.1 = tag)
    have none : spelled.filter (·.1 = tag) = [] :=
      List.filter_eq_nil_iff.2 fun m hm => by simpa using only m hm
    rw [List.filter_cons_of_pos (by simp), none] at perm
    exact (List.singleton_perm.1 perm).symm
  have others : spelled.Perm (ordered.filter (·.1 ≠ tag)) := by
    have perm := order.filter (·.1 ≠ tag)
    rwa [List.filter_cons_of_neg (by simp),
      List.filter_eq_self.2 fun m hm => by simpa using only m hm] at perm
  exact ⟨by rw [splitTag, tagged], .object rest others⟩

theorem Wire.reads_tagged {shapes : List (String × Shape α)} {state : String} {shape : Shape α}
    {members : List (String × Json)} {a : α} (room : Nat) (named : asName shapes state = .ok shape)
    (untagged : "state" ∉ members.map (·.1)) (spells : shape.Spells members a)
    (printable : ∀ m ∈ members, Printable room m.2)
    (kept : ∀ m ∈ members, m.2.retainable = true) :
    Reads (asTagged shapes) (.object (("state", .string state) :: members)) a := by
  intro w spelled
  have clean : Printable (room + 1) (.object (("state", .string state) :: members)) :=
    .object _ (List.forall_mem_cons.2 ⟨.string state, printable⟩)
  have retainable := (clean.respelled spelled).2
    (Json.retainableMembers_iff.2 (List.forall_mem_cons.2 ⟨rfl, kept⟩))
  obtain ⟨_, ordered, rfl, -⟩ := spelled.object_inv
  have whole : Json.retained (.object ordered) = .ok (.object ordered) := if_pos retainable
  obtain ⟨split, rest⟩ := splitTag_respelled (by decide) untagged spelled
  simp only [asTagged, whole, split, named]
  exact spells.reads (.object members printable) rest

/-! ## Outcomes -/

theorem Wire.spells_hash {f : Word → α} (h : Word) :
    Spells (f <$> required "tx_hash" asKeptBytes) [("tx_hash", hexJson h)] (f h) where
  names := rfl
  distinct := (by decide : List.Nodup ["tx_hash"])
  gives := by
    intro found at_
    simp only [List.forall_mem_cons] at at_
    exact Gives.map _ (gives_required at_.1 (by decide) (reads_bytes _ _))

theorem Wire.spells_reason {f : Option Word → String → α} (h : Option Word) (reason : String) :
    Spells (f <$> optional "tx_hash" asKeptBytes <*> required "reason" Json.asString)
      [("tx_hash", .ofOption hexJson h), ("reason", .string reason)] (f h reason) where
  names := rfl
  distinct := (by decide : List.Nodup ["tx_hash", "reason"])
  gives := by
    intro found at_
    simp only [List.forall_mem_cons] at at_
    obtain ⟨hash, reason, -⟩ := at_
    exact (Gives.map _ (gives_optional hash (by decide) (reads_hash _))).seq
      (gives_required reason (by decide) (Json.reads_string rfl))

section Outcome

variable {shapes : List (String × Shape α)} {state : String}

theorem Wire.reads_plain {a : α} (named : asName shapes state = .ok (.pure a)) :
    Reads (asTagged shapes) (.object [("state", .string state)]) a :=
  reads_tagged 0 named List.not_mem_nil ⟨rfl, .nil, fun _ _ => gives_pure a⟩ nofun nofun

/-- An outcome that has a hash. -/
theorem Wire.reads_hashed {f : Word → α}
    (named : asName shapes state = .ok (f <$> required "tx_hash" asKeptBytes)) (h : Word) :
    Reads (asTagged shapes) (.object [("state", .string state), ("tx_hash", hexJson h)]) (f h) := by
  have untagged : "state" ∉ ["tx_hash"] := by decide
  refine reads_tagged 0 named untagged (spells_hash h) ?_ ?_
  · simp [printable_hexJson]
  · simp [hexJson, Json.retainable]

/-- An outcome that has a reason, and a hash unless there is none. -/
theorem Wire.reads_reasoned {f : Option Word → String → α}
    (named : asName shapes state =
      .ok (f <$> optional "tx_hash" asKeptBytes <*> required "reason" Json.asString))
    (h : Option Word) (reason : String) :
    Reads (asTagged shapes)
      (.object [("state", .string state), ("tx_hash", .ofOption hexJson h),
        ("reason", .string reason)]) (f h reason) := by
  have untagged : "state" ∉ ["tx_hash", "reason"] := by decide
  refine reads_tagged 0 named untagged (spells_reason h reason) ?_ ?_
  · simp [printable_hash, Printable.string]
  · simp [retainable_hash, Json.retainable]

end Outcome

theorem DispatchStatus.printable (s : DispatchStatus) : Printable (room + 1) s.toJson := by
  cases s <;> exact .object _ (by simp [Printable.string, printable_hexJson, printable_hash])

theorem DispatchStatus.reads (s : DispatchStatus) : Reads ofJson s.toJson s := by
  cases s with
  | notRequired => exact reads_plain rfl
  | alreadySatisfied => exact reads_plain rfl
  | confirmed h => exact reads_hashed rfl h
  | failed h reason => exact reads_reasoned rfl h reason
  | unknown h reason => exact reads_reasoned rfl h reason

theorem TransactionOutcome.printable (o : TransactionOutcome) : Printable (room + 1) o.toJson := by
  cases o <;> exact .object _ (by simp [Printable.string, printable_hexJson, printable_hash])

theorem TransactionOutcome.reads (o : TransactionOutcome) : Reads ofJson o.toJson o := by
  cases o with
  | confirmed h => exact reads_hashed rfl h
  | failed h reason => exact reads_reasoned rfl h reason
  | unknown h reason => exact reads_reasoned rfl h reason

/-! ## Results -/

theorem DelegationAction.reads (a : DelegationAction) : Reads ofJson a.toJson a := by
  cases a <;> exact Json.reads_string rfl

theorem DelegationActionResult.spells (r : DelegationActionResult) :
    shape.Spells
      [("pubkey", hexJson r.pubkey), ("action", r.action.toJson), ("outcome", r.outcome.toJson)]
      r where
  names := rfl
  distinct := by decide
  gives := by
    intro found at_
    simp only [List.forall_mem_cons] at at_
    obtain ⟨key, action, outcome, -⟩ := at_
    exact ((Gives.map _ (gives_required key (by decide) (reads_key _))).seq
      (gives_required action (by decide) r.action.reads)).seq
      (gives_required outcome (by decide) r.outcome.reads)

theorem DelegationActionResult.printable (r : DelegationActionResult) :
    Printable (room + 2) r.toJson :=
  .object _ (by
    simp [printable_hexJson, DelegationAction.toJson, Printable.string, r.outcome.printable])

theorem DelegationActionResult.reads (r : DelegationActionResult) : Reads ofJson r.toJson r :=
  r.spells.reads (r.printable : Printable 2 _)

theorem ReconciliationResult.spells (r : ReconciliationResult) :
    shape.Spells
      [("pubkey", hexJson r.pubkey), ("representative", hexJson r.representative),
        ("payout_recipient", hexJson r.payoutRecipient),
        ("secondary_signature", .ofOption EcdsaSignature.toJson r.secondarySignature),
        ("registry_success", .bool r.registrySuccess),
        ("delegation_success", .bool r.delegationSuccess),
        ("registry", r.registry.toJson), ("delegation", r.delegation.toJson)] r where
  names := rfl
  distinct := by decide
  gives := by
    intro found at_
    simp only [List.forall_mem_cons] at at_
    obtain ⟨key, representative, recipient, signature, success, success', registry, ledger, -⟩ :=
      at_
    have signed := Json.reads_optional (fun _ => Json.noConfusion) EcdsaSignature.reads
      r.secondarySignature
    exact (((((((Gives.map _ (gives_required key (by decide) (reads_key _))).seq
      (gives_required representative (by decide) (reads_bytes _ _))).seq
      (gives_required recipient (by decide) (reads_bytes _ _))).seq
      (gives_optional signature (by decide) signed)).seq
      (gives_required success (by decide) (Json.reads_bool _))).seq
      (gives_required success' (by decide) (Json.reads_bool _))).seq
      (gives_required registry (by decide) r.registry.reads)).seq
      (gives_required ledger (by decide) r.delegation.reads)

theorem ReconciliationResult.printable (r : ReconciliationResult) :
    Printable (room + 2) r.toJson := by
  have signature : Printable (room + 1) (.ofOption EcdsaSignature.toJson r.secondarySignature) := by
    cases r.secondarySignature with
    | none => exact .null
    | some s => exact s.printable
  exact .object _ (by
    simp [printable_hexJson, signature, Printable.bool, r.registry.printable,
      r.delegation.printable])

theorem ReconciliationResult.reads (r : ReconciliationResult) : Reads ofJson r.toJson r :=
  r.spells.reads (r.printable : Printable 2 _)

/-! ## Texts -/

/-- Each value is read back from the text that it is written as, and from the text of each other
spelling of it. -/
def ReadsBack (toJson : α → Json) (ofJson : Decoder α) : Prop :=
  ∀ (a : α) (w : Json), Respelled (toJson a) w → ofJson (parse w.text) = .ok a

theorem readsBack_of_reads {toJson : α → Json} {ofJson : Decoder α}
    (printable : ∀ a, Printable (room + 1) (toJson a)) (reads : ∀ a, Reads ofJson (toJson a) a)
    (deep : room + 1 ≤ Json.depthLimit) : ReadsBack toJson ofJson := by
  intro a w spelled
  rw [Json.parse_text ((printable a).respelled spelled).1 deep]
  exact reads a spelled

/-- The nine records of the wire are read back from each spelling of their texts. -/
theorem wireRecords_readBack :
    ReadsBack SignedRegistration.toJson SignedRegistration.ofJson ∧
    ReadsBack DelegationReport.toJson DelegationReport.ofJson ∧
    ReadsBack EcdsaSignature.toJson EcdsaSignature.ofJson ∧
    ReadsBack ExclusionRecord.toJson ExclusionRecord.ofJson ∧
    ReadsBack AuthorityStatus.toJson AuthorityStatus.ofJson ∧
    ReadsBack DispatchStatus.toJson DispatchStatus.ofJson ∧
    ReadsBack TransactionOutcome.toJson TransactionOutcome.ofJson ∧
    ReadsBack ReconciliationResult.toJson ReconciliationResult.ofJson ∧
    ReadsBack DelegationActionResult.toJson DelegationActionResult.ofJson := by
  have deep : 1 + 1 ≤ Json.depthLimit := by decide
  refine ⟨?_, ?_, ?_, ?_, ?_, ?_, ?_, ?_, ?_⟩
  · exact readsBack_of_reads SignedRegistration.printable SignedRegistration.reads deep
  · exact readsBack_of_reads DelegationReport.printable DelegationReport.reads deep
  · exact readsBack_of_reads EcdsaSignature.printable EcdsaSignature.reads deep
  · exact readsBack_of_reads ExclusionRecord.printable ExclusionRecord.reads deep
  · exact readsBack_of_reads AuthorityStatus.printable AuthorityStatus.reads deep
  · exact readsBack_of_reads DispatchStatus.printable DispatchStatus.reads deep
  · exact readsBack_of_reads TransactionOutcome.printable TransactionOutcome.reads deep
  · exact readsBack_of_reads ReconciliationResult.printable ReconciliationResult.reads deep
  · exact readsBack_of_reads DelegationActionResult.printable DelegationActionResult.reads deep

/-- A registration with both objects turned around and both numbers bare, one of them the largest. -/
theorem wireRecords_readBack_turned :
    let message : RegistrationMessage :=
      ⟨.replicate 20 0xab, 30000000, 0xffffffffffffffff, .replicate 48 0x01⟩
    let registration : SignedRegistration := ⟨message, .replicate 96 0x02⟩
    let turned : Json := .object
      [("signature", hexJson registration.signature),
        ("message", .object
          [("pubkey", hexJson message.pubkey), ("timestamp", ofWord64 message.timestamp),
            ("gas_limit", ofWord64 message.gasLimit),
            ("fee_recipient", hexJson message.feeRecipient)])]
    SignedRegistration.ofJson (parse turned.text) = .ok registration := by
  intro message registration turned
  have gas : "gas_limit" ∈ quotedNames := by decide
  have time : "timestamp" ∈ quotedNames := by decide
  have inner : Respelled message.toJson _ :=
    .object (.cons (.value (.same _)) (.cons (.bare gas message.gasLimit)
      (.cons (.bare time message.timestamp) (.cons (.value (.same _)) .nil))))
      (List.reverse_perm _).symm
  have spelled : Respelled registration.toJson turned :=
    .object (.cons (.value inner) (.cons (.value (.same _)) .nil)) (List.reverse_perm _).symm
  exact wireRecords_readBack.1 registration turned spelled

end Registrar
