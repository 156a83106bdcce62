import Registrar.Exclusion.Store
import Registrar.Proofs.Batching
import Registrar.Proofs.ListFile
import Registrar.Proofs.Spelling
import Mathlib.Data.List.Nodup

/-! Which contents of an exclusion file are lists, and the table that a list stands for: what a record
says is read off its members one by one, and of the records of a key only the last one counts. -/
namespace Registrar
set_option autoImplicit false

/-! ## Members of an object -/

namespace Json

mutual

/-- A value that can be kept can be skipped. -/
theorem intact_of_retainable : ∀ v : Json, v.retainable = true → v.intact = true
  | .null, _ | .bool _, _ | .number _, _ | .string _, _ => rfl
  | .array items, h => intactItems_of_retainable items h
  | .object members, h => intactMembers_of_retainable members h
  | .unpaired _, h | .buried _, h | .misnamed _, h | .gap, h | .broken, h =>
    absurd h Bool.false_ne_true

theorem intactItems_of_retainable :
    ∀ items : List Json, retainableItems items = true → intactItems items = true
  | [], _ => rfl
  | v :: vs, h => by
    obtain ⟨first, rest⟩ := (Bool.and_eq_true ..).mp h
    exact (Bool.and_eq_true ..).mpr
      ⟨intact_of_retainable v first, intactItems_of_retainable vs rest⟩

theorem intactMembers_of_retainable :
    ∀ members : List (String × Json), retainableMembers members = true →
      intactMembers members = true
  | [], _ => rfl
  | (_, v) :: vs, h => by
    obtain ⟨first, rest⟩ := (Bool.and_eq_true ..).mp h
    exact (Bool.and_eq_true ..).mpr
      ⟨intact_of_retainable v first, intactMembers_of_retainable vs rest⟩

end

/-- What the members with the name come with, in their order. -/
def valuesOf (name : String) (members : List (String × Json)) : List Json :=
  (members.filter (·.1 = name)).map (·.2)

theorem valuesOf_cons (name name' : String) (v : Json) (rest : List (String × Json)) :
    valuesOf name ((name', v) :: rest) =
      if name' = name then v :: valuesOf name rest else valuesOf name rest := by
  unfold valuesOf
  by_cases same : name' = name <;> simp [same]

namespace Shape

variable {α : Type} {known : List Member} {members : List (String × Json)} {seen : List String}

theorem findMember_eq_head? (name : String) (members : List (String × Json)) :
    findMember members name = (valuesOf name members).head? := by
  rw [findMember, valuesOf, List.head?_map, List.head?_filter]

/-- The known members come as they should: once at most, not again where they were seen before, and
each in its shape. -/
def Fit (known : List Member) (seen : List String) (members : List (String × Json)) : Prop :=
  ∀ k ∈ known, (valuesOf k.name members).length ≤ (if k.name ∈ seen then 0 else 1) ∧
    ∀ v ∈ valuesOf k.name members, k.check v = .ok ()

/-- A member that can be kept is skipped if it is unknown, and else taken in if it is new and has its
shape. -/
theorem scanMembers_cons_iff {name : String} {v : Json} {rest : List (String × Json)}
    {seen' : List String} (kept : v.retainable = true) :
    scanMembers known seen ((name, v) :: rest) = .ok seen' ↔
      (known.find? (·.name = name) = none ∧ scanMembers known seen rest = .ok seen') ∨
        ∃ k, known.find? (·.name = name) = some k ∧ name ∉ seen ∧ k.check v = .ok () ∧
          scanMembers known (name :: seen) rest = .ok seen' := by
  have skips : skipped v = .ok () := if_pos (intact_of_retainable v kept)
  have readable : ∀ w, v ≠ .misnamed w := by
    rintro w rfl
    cases kept
  rw [scanMembers]
  case x_1 => exact readable
  cases first : known.find? (·.name = name) with
  | none => simp [skips]
  | some k =>
    by_cases old : name ∈ seen
    · simp [old]
    · cases check : k.check v <;> simp [old, check]

theorem eq_of_name_eq (distinct : (known.map (·.name)).Nodup) {k k' : Member} (hk : k ∈ known)
    (hk' : k' ∈ known) (same : k.name = k'.name) : k = k' :=
  List.inj_on_of_nodup_map distinct hk hk' same

theorem fit_cons_unknown {name : String} {v : Json} {rest : List (String × Json)}
    (unknown : known.find? (·.name = name) = none) :
    Fit known seen ((name, v) :: rest) ↔ Fit known seen rest := by
  refine forall₂_congr fun k hk => ?_
  have other : ¬name = k.name := by
    have other := List.find?_eq_none.1 unknown k hk
    simpa [eq_comm] using other
  rw [valuesOf_cons, if_neg other]

theorem fit_cons_known {name : String} {v : Json} {rest : List (String × Json)} {k : Member}
    (distinct : (known.map (·.name)).Nodup) (first : known.find? (·.name = name) = some k) :
    Fit known seen ((name, v) :: rest) ↔
      name ∉ seen ∧ k.check v = .ok () ∧ Fit known (name :: seen) rest := by
  have hk : k ∈ known := List.mem_of_find?_eq_some first
  have named : k.name = name := by simpa using List.find?_some first
  subst named
  constructor
  · intro fit
    obtain ⟨once, checks⟩ := fit k hk
    rw [valuesOf_cons, if_pos rfl] at once checks
    have fresh : k.name ∉ seen := fun old => by simp [old] at once
    refine ⟨fresh, checks v List.mem_cons_self, fun k' hk' => ?_⟩
    by_cases same : k.name = k'.name
    · obtain rfl := eq_of_name_eq distinct hk hk' same
      rw [if_neg fresh] at once
      rw [if_pos List.mem_cons_self]
      exact ⟨Nat.le_of_succ_le_succ once, fun w hw => checks w (List.mem_cons_of_mem _ hw)⟩
    · have others := fit k' hk'
      rw [valuesOf_cons, if_neg same] at others
      simpa [eq_comm, same] using others
  · rintro ⟨fresh, check, fit⟩ k' hk'
    obtain ⟨once, checks⟩ := fit k' hk'
    by_cases same : k.name = k'.name
    · obtain rfl := eq_of_name_eq distinct hk hk' same
      rw [if_pos List.mem_cons_self] at once
      rw [valuesOf_cons, if_pos rfl, if_neg fresh]
      exact ⟨Nat.succ_le_succ once, List.forall_mem_cons.2 ⟨check, checks⟩⟩
    · rw [valuesOf_cons, if_neg same]
      simpa [eq_comm, same] using And.intro once checks

/-- The scan goes to the end exactly when the known members come as they should. -/
theorem exists_scanned_iff (distinct : (known.map (·.name)).Nodup)
    (kept : ∀ m ∈ members, m.2.retainable = true) :
    (∃ seen', scanMembers known seen members = .ok seen') ↔ Fit known seen members := by
  induction members generalizing seen with
  | nil => simp [scanMembers, Fit, valuesOf]
  | cons m rest ih =>
    obtain ⟨name, v⟩ := m
    obtain ⟨keeps, kept⟩ := List.forall_mem_cons.1 kept
    simp only [scanMembers_cons_iff keeps]
    cases first : known.find? (·.name = name) with
    | none =>
      rw [fit_cons_unknown first, ← ih kept]
      simp
    | some k =>
      rw [fit_cons_known distinct first, ← ih kept]
      simp

/-- What the scan has seen in the end is what was there. -/
theorem mem_of_scanned {seen' : List String} (kept : ∀ m ∈ members, m.2.retainable = true)
    (h : scanMembers known seen members = .ok seen') {k : Member} (hk : k ∈ known) :
    k.name ∈ seen' ↔ k.name ∈ seen ∨ valuesOf k.name members ≠ [] := by
  induction members generalizing seen with
  | nil =>
    cases h
    simp [valuesOf]
  | cons m rest ih =>
    obtain ⟨name, v⟩ := m
    obtain ⟨keeps, kept⟩ := List.forall_mem_cons.1 kept
    rw [valuesOf_cons]
    obtain ⟨unknown, h⟩ | ⟨k', first, -, -, h⟩ := (scanMembers_cons_iff keeps).1 h
    · have other : ¬name = k.name := by
        have other := List.find?_eq_none.1 unknown k hk
        simpa [eq_comm] using other
      rw [if_neg other]
      exact ih kept h
    · rw [ih kept h, List.mem_cons]
      by_cases same : name = k.name
      · simp [same]
      · have other : ¬k.name = name := fun equal => same equal.symm
        simp [same, other]

/-- A record is read from the members of an object when the known ones come as they should, and are
there where they must be, and the record is built of what is found. -/
theorem ofMembers_eq_ok_iff {s : Shape α} {a : α} (distinct : (s.members.map (·.name)).Nodup)
    (kept : ∀ m ∈ members, m.2.retainable = true) :
    s.ofMembers members = .ok a ↔
      Fit s.members [] members ∧
        (∀ k ∈ s.members, k.presence = .required → valuesOf k.name members ≠ []) ∧
        s.build (findMember members) = .ok a := by
  rw [← exists_scanned_iff distinct kept, ofMembers]
  cases scanned : scanMembers s.members [] members with
  | error e => simp
  | ok seen =>
    have there : ∀ k ∈ s.members, (k.name ∈ seen ↔ valuesOf k.name members ≠ []) := fun k hk => by
      rw [mem_of_scanned kept scanned hk, or_iff_right List.not_mem_nil]
    have complete : (s.members.any fun k => k.presence = .required && !seen.contains k.name) =
        false ↔ ∀ k ∈ s.members, k.presence = .required → valuesOf k.name members ≠ [] := by
      rw [List.any_eq_false]
      refine forall₂_congr fun k hk => ?_
      rw [← there k hk]
      simp
    rw [← complete]
    dsimp only
    cases s.members.any fun k => k.presence = .required && !seen.contains k.name <;> simp

variable {β : Type} {found : String → Option Json}

theorem build_map_eq_ok_iff {g : α → β} {s : Shape α} {b : β} :
    (g <$> s).build found = .ok b ↔ ∃ a, s.build found = .ok a ∧ g a = b := by
  change (s.build found).map g = .ok b ↔ _
  cases s.build found <;> simp [Except.map]

theorem build_seq_eq_ok_iff {f : Shape (α → β)} {s : Shape α} {b : β} :
    (f <*> s).build found = .ok b ↔
      ∃ g a, f.build found = .ok g ∧ s.build found = .ok a ∧ g a = b := by
  change (f.app s).build found = .ok b ↔ _
  rw [app]
  dsimp only
  cases f.build found with
  | error e => simp
  | ok g => cases s.build found <;> simp [Except.map]

/-- One member that comes at most once is read from what it came with, or made up. -/
theorem read_single_iff {values : List Json} {decode : Decoder α} {otherwise : Except Fault α}
    {a : α} :
    (values.length ≤ 1 ∧ ∀ v ∈ values, ((decode v).map fun _ => ()) = .ok ()) ∧
      (match values.head? with
        | some v => decode v
        | none => otherwise) = .ok a ↔
      (values = [] ∧ otherwise = .ok a) ∨ ∃ v, values = [v] ∧ decode v = .ok a := by
  match values with
  | [] => simp
  | [v] =>
    have read : decode v = .ok a → ((decode v).map fun _ => ()) = .ok () := fun h => by rw [h]; rfl
    simpa using read
  | v :: w :: rest => simp

end Shape

end Json

/-! ## Records -/

/-- A flag among the members of an object: false when it is absent, and never given twice. -/
inductive Flag (name : String) (members : List (String × Json)) : Bool → Prop
  | absent (h : Json.valuesOf name members = []) : Flag name members false
  | given (b : Bool) (h : Json.valuesOf name members = [.bool b]) : Flag name members b

/-- The members tell this record: all of them can be kept, the key is given once, as its text, and
each flag at most once. Members of other names tell nothing. -/
structure ExclusionRecord.Tells (members : List (String × Json)) (r : ExclusionRecord) : Prop where
  kept : ∀ m ∈ members, m.2.retainable = true
  key : ∃ s, Json.valuesOf "pubkey" members = [.string s] ∧ FixedBytes.ofHex s = .ok r.pubkey
  registry : Flag "exclude_registry" members r.exclusion.registry
  ledger : Flag "exclude_native_delegation" members r.exclusion.nativeDelegation

theorem flag_iff {name : String} {members : List (String × Json)} {b : Bool} :
    Flag name members b ↔
      (Json.valuesOf name members = [] ∧ (.ok false : Except Json.Fault Bool) = .ok b) ∨
        ∃ v, Json.valuesOf name members = [v] ∧ Json.asBool v = .ok b := by
  constructor
  · rintro (⟨absent⟩ | ⟨_, given⟩)
    · exact .inl ⟨absent, rfl⟩
    · exact .inr ⟨_, given, rfl⟩
  · rintro (⟨absent, same⟩ | ⟨v, given, read⟩)
    · cases same
      exact .absent absent
    · cases v with
      | bool b' =>
        cases read
        exact .given b given
      | _ => cases read

theorem key_iff {members : List (String × Json)} {k : PublicKey} :
    (∃ s, Json.valuesOf "pubkey" members = [.string s] ∧ FixedBytes.ofHex s = .ok k) ↔
      ∃ v, Json.valuesOf "pubkey" members = [v] ∧ Wire.asKey v = .ok k := by
  constructor
  · rintro ⟨s, given, read⟩
    exact ⟨_, given, Wire.asKey_string.2 read⟩
  · rintro ⟨v, given, read⟩
    cases v with
    | string s => exact ⟨s, given, Wire.asKey_string.1 read⟩
    | _ => cases read

namespace ExclusionRecord

open Json (valuesOf)

variable {members : List (String × Json)} {r : ExclusionRecord}

theorem build_shape_eq_ok_iff {found : String → Option Json} :
    shape.build found = .ok r ↔
      (Json.Shape.required "pubkey" Wire.asKey).build found = .ok r.pubkey ∧
      (Json.Shape.defaulted "exclude_registry" Json.asBool false).build found =
        .ok r.exclusion.registry ∧
      (Json.Shape.defaulted "exclude_native_delegation" Json.asBool false).build found =
        .ok r.exclusion.nativeDelegation := by
  rw [shape, Exclusion.shape]
  simp only [Json.Shape.build_seq_eq_ok_iff, Json.Shape.build_map_eq_ok_iff]
  constructor
  · rintro ⟨_, _, ⟨k, key, rfl⟩, ⟨_, ledger, ⟨registry, first, rfl⟩, second, rfl⟩, rfl⟩
    exact ⟨key, first, second⟩
  · rintro ⟨key, first, second⟩
    exact ⟨_, _, ⟨_, key, rfl⟩, ⟨_, _, ⟨_, first, rfl⟩, second, rfl⟩, rfl⟩

theorem ofMembers_eq_ok_iff (kept : ∀ m ∈ members, m.2.retainable = true) :
    shape.ofMembers members = .ok r ↔ Tells members r := by
  rw [Json.Shape.ofMembers_eq_ok_iff (by decide) kept, build_shape_eq_ok_iff]
  have found (name : String) := Json.Shape.findMember_eq_head? name members
  simp only [Json.Shape.required, Json.Shape.defaulted, found]
  have members_shape : shape.members =
      [⟨"pubkey", .required, fun v => ((Wire.asKey v : Except _ PublicKey)).map fun _ => ()⟩,
        ⟨"exclude_registry", .defaulted, fun v => (Json.asBool v).map fun _ => ()⟩,
        ⟨"exclude_native_delegation", .defaulted, fun v => (Json.asBool v).map fun _ => ()⟩] := rfl
  simp only [Json.Shape.Fit, members_shape, List.forall_mem_cons, List.not_mem_nil, if_false]
  constructor
  · rintro ⟨⟨key, registry, ledger, -⟩, -, readKey, readRegistry, readLedger⟩
    have single := (Json.Shape.read_single_iff.1 ⟨key, readKey⟩).resolve_left fun h => nomatch h.2
    exact ⟨kept, key_iff.2 single,
      flag_iff.2 (Json.Shape.read_single_iff.1 ⟨registry, readRegistry⟩),
      flag_iff.2 (Json.Shape.read_single_iff.1 ⟨ledger, readLedger⟩)⟩
  · rintro ⟨-, key, registry, ledger⟩
    obtain ⟨key, readKey⟩ := Json.Shape.read_single_iff.2 (.inr (key_iff.1 key))
    obtain ⟨registry, readRegistry⟩ := Json.Shape.read_single_iff.2 (flag_iff.1 registry)
    obtain ⟨ledger, readLedger⟩ := Json.Shape.read_single_iff.2 (flag_iff.1 ledger)
    refine ⟨⟨key, registry, ledger, nofun⟩, ⟨fun _ missing => ?_, nofun, nofun, nofun⟩, readKey,
      readRegistry, readLedger⟩
    rw [missing] at readKey
    cases readKey

/-- A value is read as a record exactly when it is an object whose members tell the record. -/
theorem ofJson_eq_ok_iff {v : Json} :
    ofJson v = .ok r ↔ ∃ members, v = .object members ∧ Tells members r := by
  cases v with
  | object members =>
    have keeps : Json.retainableMembers members = true ↔ ∀ m ∈ members, m.2.retainable = true :=
      Json.retainableMembers_iff
    by_cases kept : ∀ m ∈ members, m.2.retainable = true
    · have whole : Json.retained (.object members) = .ok (.object members) := if_pos (keeps.2 kept)
      rw [ofJson, whole]
      dsimp only [Json.Shape.decodeObject]
      rw [ofMembers_eq_ok_iff kept]
      constructor
      · exact fun tells => ⟨members, rfl, tells⟩
      · rintro ⟨members, same, tells⟩
        cases same
        exact tells
    · have broken : Json.retained (.object members) = .error .syntactic := if_neg (mt keeps.1 kept)
      rw [ofJson, broken]
      constructor
      · intro h
        cases h
      · rintro ⟨members, same, tells⟩
        cases same
        exact absurd tells.kept kept
  | _ =>
    constructor
    · intro h
      cases h
    · rintro ⟨members, same, -⟩
      cases same

/-! ## Lists -/

def IsToldBy (r : ExclusionRecord) (v : Json) : Prop :=
  ∃ members, v = .object members ∧ Tells members r

/-- The content is the text of an array, whose items tell the records one by one. -/
def Lists (content : Bytes) (records : List ExclusionRecord) : Prop :=
  ∃ text items, textOfBytes? content = some text ∧ Json.parse text = .array items ∧
    List.Forall₂ (fun v r => IsToldBy r v) items records

theorem readAll_eq_ok_iff {content : Bytes} {records : List ExclusionRecord} :
    readAll content = .ok records ↔ Lists content records := by
  unfold readAll Lists
  cases textOfBytes? content with
  | none =>
    constructor
    · intro h
      cases h
    · rintro ⟨text, items, same, -⟩
      cases same
  | some text =>
    dsimp only
    cases parsed : Json.parse text with
    | array items =>
      rw [Json.asList_array_iff]
      simp only [ofJson_eq_ok_iff]
      constructor
      · exact fun each => ⟨text, items, rfl, parsed, each⟩
      · rintro ⟨text, items', same, other, each⟩
        cases same
        cases parsed.symm.trans other
        exact each
    | _ =>
      constructor
      · intro h
        cases h
      · rintro ⟨text, items, same, other, -⟩
        cases same
        cases parsed.symm.trans other

end ExclusionRecord

/-! ## Tables -/

namespace ExclusionTable

variable {records : List ExclusionRecord} {version : UInt64}

theorem size_ofRecords :
    (ofRecords records version).size = (records.map (·.pubkey)).eraseDups.length := by
  have keys := Table.keys_ofList (records.map fun r => (r.pubkey, r.exclusion))
  rw [List.map_map] at keys
  have length := congrArg List.length keys
  rwa [Table.keys, List.length_map] at length

/-- The last record of a key decides alone. -/
theorem entry_ofRecords_last (earlier : List ExclusionRecord) (r : ExclusionRecord)
    {later : List ExclusionRecord} (last : ∀ r' ∈ later, r'.pubkey ≠ r.pubkey) :
    (ofRecords (earlier ++ r :: later) version).entry r.pubkey = r.exclusion := by
  induction later using List.reverseRecOn with
  | nil => rw [entry_ofRecords_append, if_pos rfl]
  | append_singleton later r' ih =>
    obtain ⟨others, other⟩ := List.forall_mem_append.1 last
    rw [← List.cons_append, ← List.append_assoc, entry_ofRecords_append,
      if_neg (other r' (List.mem_singleton_self r')), ih others]

theorem entry_ofRecords_of_not_mem {k : PublicKey} (h : k ∉ records.map (·.pubkey)) :
    (ofRecords records version).entry k = ⟨false, false⟩ := by
  induction records using List.reverseRecOn with
  | nil => rfl
  | append_singleton records r ih =>
    rw [List.map_append, List.mem_append, not_or] at h
    have other : r.pubkey ≠ k := fun same => h.2 (List.mem_singleton.2 same.symm)
    rw [entry_ofRecords_append, if_neg other, ih h.1]

/-! ### Samples -/

/-- Two records of one key in two spellings, the second with a member that tells nothing. -/
def sampleItems : List Json :=
  [.object [("pubkey", .string (FixedBytes.replicate 48 0xab).toHex),
      ("exclude_registry", .bool true)],
    .object [("exclude_native_delegation", .bool true), ("note", .null),
      ("pubkey", .string (" 0X" ++ String.join (List.replicate 48 "Ab")))]]

def sampleListed : List ExclusionRecord :=
  [⟨.replicate 48 0xab, ⟨true, false⟩⟩, ⟨.replicate 48 0xab, ⟨false, true⟩⟩]

def contentOf (items : List Json) : Bytes :=
  Text.utf8 (Json.array items).render

theorem textOfBytes?_contentOf (items : List Json) :
    textOfBytes? (contentOf items) = some (Json.array items).text :=
  textOfBytes?_utf8 _

theorem inked_contentOf (items : List Json) : (contentOf items).all isAsciiBlank = false := by
  rw [contentOf, Json.render]
  rfl

theorem parse_array_text {items : List Json} (printable : ∀ v ∈ items, Json.Printable 1 v) :
    Json.parse (Json.array items).text = .array items :=
  Json.parse_text (.array items printable : Json.Printable 2 _) (by decide)

theorem printable_sampleItems : ∀ v ∈ sampleItems, Json.Printable 1 v := by
  simp [sampleItems, Json.Printable.object, Json.Printable.string, Json.Printable.bool,
    Json.Printable.null]

theorem sampleItems_tell :
    List.Forall₂ (fun v r => ExclusionRecord.IsToldBy r v) sampleItems sampleListed := by
  refine .cons ⟨_, rfl, ?_⟩ (.cons ⟨_, rfl, ?_⟩ .nil)
  · exact {
      kept := by simp [Json.retainable]
      key := ⟨_, rfl, FixedBytes.ofHex_toHex _⟩
      registry := .given true rfl
      ledger := .absent rfl }
  · exact {
      kept := by simp [Json.retainable]
      key := ⟨_, rfl, by decide +kernel⟩
      registry := .absent rfl
      ledger := .given true rfl }

theorem sampleItems_listed : ExclusionRecord.Lists (contentOf sampleItems) sampleListed :=
  ⟨_, sampleItems, textOfBytes?_contentOf _, parse_array_text printable_sampleItems,
    sampleItems_tell⟩

/-- The same with a record that has no key. -/
def spoiltItems : List Json :=
  .object [] :: sampleItems

theorem spoiltItems_unlisted (records : List ExclusionRecord) :
    ¬ExclusionRecord.Lists (contentOf spoiltItems) records := by
  rintro ⟨text, items, same, parsed, each⟩
  obtain rfl := Option.some.inj ((textOfBytes?_contentOf _).symm.trans same)
  have printable : ∀ v ∈ spoiltItems, Json.Printable 1 v :=
    List.forall_mem_cons.2 ⟨.object [] nofun, printable_sampleItems⟩
  obtain rfl := Json.array.inj ((parse_array_text printable).symm.trans parsed)
  obtain ⟨r, -, ⟨members, told, tells⟩, -⟩ := List.forall₂_cons_left_iff.1 each
  obtain rfl := Json.object.inj told
  obtain ⟨s, none, -⟩ := tells.key
  cases none

/-! ### Loading -/

/-- What a content is loaded as. Nothing but blanks is the empty table. A list of records that can all
be read is a table with an entry for each of their keys, which says what the last record of the key
says and nothing that an earlier one said, and with both flags false for every other key. Any other
content is refused with the path, and a store that is to be reloaded from it keeps what it has
published. -/
theorem load_exact (path : String) (content : Bytes) (version : UInt64) :
    (content.all isAsciiBlank = true →
      load path (.content content) version = .ok (.empty version)) ∧
    (∀ records, content.all isAsciiBlank = false → ExclusionRecord.Lists content records →
      ∃ t, load path (.content content) version = .ok t ∧ t.version = version ∧
        t.size = (records.map (·.pubkey)).eraseDups.length ∧
        (∀ earlier r later, records = earlier ++ r :: later →
          (∀ r' ∈ later, r'.pubkey ≠ r.pubkey) → t.entry r.pubkey = r.exclusion) ∧
        ∀ k, k ∉ records.map (·.pubkey) → t.entry k = ⟨false, false⟩) ∧
    (content.all isAsciiBlank = false → (∀ records, ¬ExclusionRecord.Lists content records) →
      ∃ details, load path (.content content) version = .error (.exclusionList path details) ∧
        ∀ store : ExclusionStore,
          (store.reload path (.content content)).2 = .error (.exclusionList path details) ∧
          (store.reload path (.content content)).1.current = store.current) := by
  refine ⟨fun blank => ?_, fun records inked lists => ?_, fun inked unlisted => ?_⟩
  · rw [load_content, ExclusionRecord.ofContent?, blank]
    rfl
  · refine ⟨ofRecords records version, ?_, rfl, size_ofRecords, ?_,
      fun k => entry_ofRecords_of_not_mem⟩
    · rw [load_content, ExclusionRecord.ofContent?, inked,
        ExclusionRecord.readAll_eq_ok_iff.2 lists]
      rfl
    · rintro earlier r later rfl last
      exact entry_ofRecords_last earlier r last
  · have refused : ExclusionRecord.ofContent? content = none := by
      rw [ExclusionRecord.ofContent?, inked]
      cases read : ExclusionRecord.readAll content with
      | error e => rfl
      | ok records => exact absurd (ExclusionRecord.readAll_eq_ok_iff.1 read) (unlisted records)
    have fails (version : UInt64) : load path (.content content) version =
        .error (.exclusionList path "malformed list") := by
      rw [load_content, refused]
    refine ⟨_, fails version, fun store => ?_⟩
    rw [ExclusionStore.reload, fails]
    exact ⟨rfl, rfl⟩

/-- A blank line, two records of one key, and the same two behind one without a key. -/
theorem load_exact_samples :
    load "list" (.content [0x20, 0x0a]) 3 = .ok (.empty 3) ∧
    (∃ t, load "list" (.content (contentOf sampleItems)) 7 = .ok t ∧ t.version = 7 ∧ t.size = 1 ∧
      t.entry (.replicate 48 0xab) = ⟨false, true⟩ ∧
      t.entry (.replicate 48 0xcd) = ⟨false, false⟩) ∧
    ∃ details, load "list" (.content (contentOf spoiltItems)) 7 =
        .error (.exclusionList "list" details) ∧
      (ExclusionStore.empty.reload "list" (.content (contentOf spoiltItems))).1.current =
        .empty 0 := by
  have blank := (load_exact "list" [0x20, 0x0a] 3).1 (by decide)
  obtain ⟨-, listed, -⟩ := load_exact "list" (contentOf sampleItems) 7
  obtain ⟨t, loaded, version, size, last, others⟩ := listed sampleListed (inked_contentOf _)
    sampleItems_listed
  obtain ⟨-, -, refused⟩ := load_exact "list" (contentOf spoiltItems) 7
  obtain ⟨details, refused, stays⟩ := refused (inked_contentOf _) spoiltItems_unlisted
  refine ⟨blank, ⟨t, loaded, version, ?_, ?_, ?_⟩, details, refused, (stays .empty).2⟩
  · rw [size]
    decide +kernel
  · exact last [_] _ [] rfl nofun
  · exact others _ (by decide +kernel)

end ExclusionTable

end Registrar
