import Registrar.Json.Decode
import Registrar.Proofs.Respelling
import Mathlib.Data.List.Forall2

/-! Records are read from each spelling of the object that they are written as: the members that a
record is made of are found wherever they stand, and each is read from what it came as. -/
namespace Registrar.Json
set_option autoImplicit false

variable {α β : Type} {name : String} {decode : Decoder α} {v : Json} {a : α} {room : Nat}

/-- Each spelling of the value is read as `a`. -/
def Reads (decode : Decoder α) (v : Json) (a : α) : Prop :=
  ∀ ⦃w : Json⦄, Respelled v w → decode w = .ok a

/-! ## Values with one spelling -/

theorem reads_string {s : String} (h : decode (.string s) = .ok a) :
    Reads decode (.string s) a := by
  intro w spelled
  cases spelled
  exact h

theorem reads_bool (b : Bool) : Reads asBool (.bool b) b := by
  intro w spelled
  cases spelled
  rfl

theorem reads_byte (b : UInt8) : Reads asByte (.ofNat b.toNat) b := by
  intro w spelled
  cases spelled
  exact asByte_ofNat b

theorem reads_optional {f : α → Json} (present : ∀ a, f a ≠ .null)
    (each : ∀ a, Reads decode (f a) a) (o : Option α) :
    Reads (asOptional decode) (ofOption f o) o := by
  intro w spelled
  cases o with
  | none =>
    cases spelled
    rfl
  | some a =>
    have read := each a spelled
    unfold asOptional
    split
    · generalize written : ofOption f (some a) = v at spelled
      cases spelled
      exact absurd written (present a)
    · rw [read]
      rfl

theorem asList_array_iff {items : List Json} {images : List α} :
    asList decode (.array items) = .ok images ↔
      List.Forall₂ (fun v a => decode v = .ok a) items images := by
  rw [asList]
  induction items generalizing images with
  | nil =>
    rw [List.mapM_nil, List.forall₂_nil_left_iff]
    exact ⟨fun h => (Except.ok.inj h).symm, fun h => congrArg _ h.symm⟩
  | cons v rest ih =>
    rw [List.mapM_cons, List.forall₂_cons_left_iff]
    simp only [← ih]
    cases first : decode v with
    | error e => simp [bind, Except.bind]
    | ok a => cases rest.mapM decode <;> simp [bind, Except.bind, pure, Except.pure, eq_comm]

theorem asList_map {f : α → Json} (each : ∀ a, decode (f a) = .ok a) (items : List α) :
    asList decode (.array (items.map f)) = .ok items :=
  asList_array_iff.2 (List.forall₂_map_left_iff.2 (List.forall₂_same.2 fun a _ => each a))

/-! ## Members in any order -/

theorem RespelledMembers.refl : ∀ members : List (String × Json), RespelledMembers members members
  | [] => .nil
  | (_, v) :: rest => .cons (.value (.same v)) (refl rest)

/-- A spelling of an object is an object of the same members. -/
theorem Respelled.object_inv {members : List (String × Json)} {w : Json}
    (h : Respelled (.object members) w) :
    ∃ spelled ordered, w = .object ordered ∧ RespelledMembers members spelled ∧
      spelled.Perm ordered := by
  cases h with
  | same => exact ⟨members, members, rfl, .refl members, .refl members⟩
  | object each order => exact ⟨_, _, rfl, each, order⟩

/-- Only a quoted number may lose its quotes. -/
theorem RespelledMember.respelled {w : Json} (h : RespelledMember name v w)
    (plain : name ∉ quotedNames) : Respelled v w := by
  cases h with
  | value h => exact h
  | bare quoted => exact absurd quoted plain

theorem Respelled.single {w : Json} (h : Respelled (.object [(name, v)]) w)
    (plain : name ∉ quotedNames) : ∃ v', w = .object [(name, v')] ∧ Respelled v v' := by
  obtain ⟨spelled, ordered, rfl, each, order⟩ := h.object_inv
  obtain _ | ⟨first, _ | _⟩ := each
  exact ⟨_, congrArg _ (List.singleton_perm.1 order).symm, first.respelled plain⟩

/-- The member is found, in one of its spellings. -/
def Finds (found : String → Option Json) (m : String × Json) : Prop :=
  ∃ w, found m.1 = some w ∧ RespelledMember m.1 m.2 w

namespace Shape

variable {found : String → Option Json}

theorem findMember_of_mem {members : List (String × Json)}
    (distinct : (members.map (·.1)).Nodup) (h : (name, v) ∈ members) :
    findMember members name = some v := by
  induction members with
  | nil => cases h
  | cons m members ih =>
    obtain ⟨fresh, distinct⟩ := List.nodup_cons.1 distinct
    obtain _ | ⟨_, h⟩ := h
    · rw [findMember, List.find?_cons_of_pos (by simp)]
      rfl
    · have other : m.1 ≠ name := fun same => fresh (List.mem_map.2 ⟨_, h, same.symm⟩)
      rw [findMember, List.find?_cons_of_neg (by simpa using other)]
      exact ih distinct h

theorem mem_of_findMember {members : List (String × Json)} (h : findMember members name = some v) :
    name ∈ members.map (·.1) := by
  obtain ⟨m, first, -⟩ := Option.map_eq_some_iff.1 h
  have same : m.1 = name := by simpa using List.find?_some first
  exact List.mem_map.2 ⟨m, List.mem_of_find?_eq_some first, same⟩

/-! ## What a shape makes of members -/

/-- The members found have the shape, and the record made of them is `a`. -/
structure Gives (s : Shape α) (found : String → Option Json) (a : α) : Prop where
  checked : ∀ m ∈ s.members, ∃ v, found m.name = some v ∧ m.check v = .ok ()
  built : s.build found = .ok a

theorem gives_pure (a : α) : (Shape.pure a).Gives found a where
  checked _ h := absurd h List.not_mem_nil
  built := rfl

theorem Gives.app {f : Shape (α → β)} {g : α → β} {s : Shape α} {a : α} (hf : f.Gives found g)
    (hs : s.Gives found a) : (f.app s).Gives found (g a) where
  checked m hm := (List.mem_append.1 hm).elim (hf.checked m) (hs.checked m)
  built := by
    simp only [Shape.app, hf.built, hs.built]
    rfl

theorem Gives.seq {f : Shape (α → β)} {g : α → β} {s : Shape α} {a : α} (hf : f.Gives found g)
    (hs : s.Gives found a) : (f <*> s).Gives found (g a) :=
  hf.app hs

theorem Gives.map (g : α → β) {s : Shape α} {a : α} (hs : s.Gives found a) :
    (g <$> s).Gives found (g a) :=
  (gives_pure g).app hs

/-- A member that is there is read, whatever the record would do without it. -/
theorem gives_member {presence : Presence} {otherwise : Except Fault α} {w : Json}
    (at_ : found name = some w) (read : decode w = .ok a) :
    Gives ⟨[⟨name, presence, fun v => (decode v).map fun _ => ()⟩], fun found =>
      match found name with
      | some v => decode v
      | none => otherwise⟩ found a where
  checked m hm := by
    obtain rfl := List.mem_singleton.1 hm
    exact ⟨w, at_, by simp only [read]; rfl⟩
  built := by simp only [at_, read]

theorem gives_required (at_ : Finds found (name, v)) (plain : name ∉ quotedNames)
    (reads : Reads decode v a) : (required name decode).Gives found a := by
  obtain ⟨w, at_, spelled⟩ := at_
  exact gives_member at_ (reads (spelled.respelled plain))

theorem gives_optional {o : Option α} (at_ : Finds found (name, v)) (plain : name ∉ quotedNames)
    (reads : Reads (asOptional decode) v o) : (optional name decode).Gives found o := by
  obtain ⟨w, at_, spelled⟩ := at_
  exact gives_member at_ (reads (spelled.respelled plain))

theorem gives_defaulted {default : α} (at_ : Finds found (name, v)) (plain : name ∉ quotedNames)
    (reads : Reads decode v a) : (defaulted name decode default).Gives found a := by
  obtain ⟨w, at_, spelled⟩ := at_
  exact gives_member at_ (reads (spelled.respelled plain))

/-- A quoted number is read with its quotes and without them. -/
theorem gives_quoted {n : UInt64} (at_ : Finds found (name, Wire.ofQuotedWord64 n)) :
    (required name Wire.asQuotedWord64).Gives found n := by
  obtain ⟨w, at_, spelled⟩ := at_
  refine gives_member at_ ?_
  generalize written : Wire.ofQuotedWord64 n = v at spelled
  cases spelled with
  | value spelled =>
    subst written
    cases spelled
    exact Wire.asQuotedWord64_ofQuotedWord64 n
  | bare _ k =>
    have same : Wire.asQuotedWord64 (Wire.ofQuotedWord64 n) =
        Wire.asQuotedWord64 (Wire.ofQuotedWord64 k) := congrArg _ written
    rw [Wire.asQuotedWord64_ofQuotedWord64, Wire.asQuotedWord64_ofQuotedWord64] at same
    rw [Except.ok.inj same]
    exact Wire.asQuotedWord64_ofWord64 k

/-! ## Objects -/

theorem find?_known {known : List Member} (h : ∃ k ∈ known, k.name = name) :
    ∃ k ∈ known, k.name = name ∧ known.find? (·.name = name) = some k := by
  have isSome : (known.find? (·.name = name)).isSome = true := by simpa using h
  obtain ⟨k, first⟩ := Option.isSome_iff_exists.1 isSome
  exact ⟨k, List.mem_of_find?_eq_some first, by simpa using List.find?_some first, first⟩

/-- A member is taken in when it is known, fresh and of its shape. -/
theorem scanMembers_cons {known : List Member} {seen : List String} {rest : List (String × Json)}
    (named : ∃ k ∈ known, k.name = name) (fresh : name ∉ seen)
    (checked : ∀ k ∈ known, k.name = name → k.check v = .ok ()) (clean : ∀ w, v ≠ .misnamed w) :
    scanMembers known seen ((name, v) :: rest) = scanMembers known (name :: seen) rest := by
  obtain ⟨k, hk, same, first⟩ := find?_known named
  have passes := checked k hk same
  have unseen : seen.contains name = false := by simpa using fresh
  cases v with
  | misnamed w => exact absurd rfl (clean w)
  | _ => simp only [scanMembers, first, unseen, passes, Bool.false_eq_true, if_false]

theorem scanMembers_eq {known : List Member} {members : List (String × Json)} {seen : List String}
    (distinct : (members.map (·.1)).Nodup) (fresh : ∀ m ∈ members, m.1 ∉ seen)
    (named : ∀ m ∈ members, ∃ k ∈ known, k.name = m.1)
    (checked : ∀ m ∈ members, ∀ k ∈ known, k.name = m.1 → k.check m.2 = .ok ())
    (clean : ∀ m ∈ members, Printable room m.2) :
    scanMembers known seen members = .ok ((members.map (·.1)).reverse ++ seen) := by
  induction members generalizing seen with
  | nil => rfl
  | cons m members ih =>
    obtain ⟨unlike, distinct⟩ := List.nodup_cons.1 distinct
    rw [List.forall_mem_cons] at fresh named checked clean
    -- The name just seen is none of those still to come.
    have still : ∀ m' ∈ members, m'.1 ∉ m.1 :: seen := fun m' hm' => by
      have apart : m'.1 ≠ m.1 := fun same => unlike (List.mem_map.2 ⟨m', hm', same⟩)
      simpa [apart] using fresh.2 m' hm'
    have readable : ∀ w, m.2 ≠ .misnamed w := fun w same => by
      have printable := clean.1
      rw [same] at printable
      cases printable
    rw [scanMembers_cons named.1 fresh.1 checked.1 readable,
      ih distinct still named.2 checked.2 clean.2, List.map_cons, List.reverse_cons,
      List.append_assoc, List.singleton_append]

/-- Once every member has been seen, the record is built from what was found. -/
theorem ofMembers_of_scanned {s : Shape α} {members : List (String × Json)} {seen : List String}
    (scanned : scanMembers s.members [] members = .ok seen)
    (complete : ∀ k ∈ s.members, k.name ∈ seen) :
    s.ofMembers members = s.build (findMember members) := by
  simp only [ofMembers, scanned]
  refine if_neg fun missing => ?_
  obtain ⟨k, hk, missing⟩ := List.any_eq_true.1 missing
  simp [complete k hk] at missing

/-- The members write out the record `a`: they have the names of the shape, no two of which are
alike, and whatever they come as gives `a`. -/
structure Spells (s : Shape α) (members : List (String × Json)) (a : α) : Prop where
  names : members.map (·.1) = s.members.map (·.name)
  distinct : (s.members.map (·.name)).Nodup
  gives : ∀ ⦃found : String → Option Json⦄, (∀ m ∈ members, Finds found m) → s.Gives found a

variable {s : Shape α} {members : List (String × Json)}

theorem Spells.ofMembers (h : s.Spells members a) {spelled ordered : List (String × Json)}
    (each : RespelledMembers members spelled) (order : spelled.Perm ordered)
    (clean : ∀ m ∈ ordered, Printable room m.2) : s.ofMembers ordered = .ok a := by
  have names : (ordered.map (·.1)).Perm (s.members.map (·.name)) :=
    h.names ▸ each.names ▸ (order.map _).symm
  have distinct : (ordered.map (·.1)).Nodup := names.nodup_iff.2 h.distinct
  have gives : s.Gives (findMember ordered) a := h.gives fun ⟨name, v⟩ hv => by
    obtain ⟨w, hw, spelled⟩ := each.exists_spelling hv
    exact ⟨w, findMember_of_mem distinct (order.mem_iff.1 hw), spelled⟩
  have known : ∀ m ∈ ordered, ∃ k ∈ s.members, k.name = m.1 := fun m hm =>
    List.mem_map.1 (names.mem_iff.1 (List.mem_map.2 ⟨m, hm, rfl⟩))
  have checked : ∀ m ∈ ordered, ∀ k ∈ s.members, k.name = m.1 → k.check m.2 = .ok () :=
    fun m hm k hk same => by
      obtain ⟨v, hv, passes⟩ := gives.checked k hk
      rw [same, findMember_of_mem distinct hm] at hv
      rwa [Option.some.inj hv]
  -- Every member is taken in, so none that is required is missing.
  have scanned := scanMembers_eq distinct (fun _ _ => List.not_mem_nil) known checked clean
  rw [ofMembers_of_scanned scanned fun k hk => ?_]
  · exact gives.built
  · obtain ⟨v, hv, -⟩ := gives.checked k hk
    simpa using mem_of_findMember hv

theorem Spells.readsObject (h : s.Spells members a) (printable : Printable room (.object members)) :
    Reads s.decodeObject (.object members) a := by
  intro w spelled
  have clean := (printable.respelled spelled).1
  obtain ⟨spelled, ordered, rfl, each, order⟩ := spelled.object_inv
  cases clean with
  | object _ clean => exact h.ofMembers each order clean

/-- A record is read from every spelling of its object. -/
theorem Spells.reads (h : s.Spells members a) (printable : Printable room (.object members)) :
    Reads s.decode (.object members) a := by
  intro w spelled
  have read := h.readsObject printable spelled
  obtain ⟨spelled, ordered, rfl, -⟩ := spelled.object_inv
  exact read

end Shape

end Registrar.Json
