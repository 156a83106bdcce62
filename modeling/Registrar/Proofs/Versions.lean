import Registrar.Proofs.Watching

/-! The versions that a store publishes when its lists come from two sides: from its file, under the
store's own count, and from whoever replaces the table, under any version. The count does not follow
a table that is put in, so a reload goes forward only past the tables that the count has passed. -/
namespace Registrar
set_option autoImplicit false

/-! ## Runs of a store -/

/-- What is done to a store. -/
inductive StoreStep where
  | reload (path : String) (reading : FileReading)
  | replace (table : ExclusionTable)

def StoreStep.isReload : StoreStep → Bool
  | .reload .. => true
  | .replace _ => false

/-- How many reloads there are, failed ones included. -/
def reloads (steps : List StoreStep) : Nat :=
  steps.countP StoreStep.isReload

theorem ExclusionTable.version_of_load {path : String} {reading : FileReading} {version : UInt64}
    {t : ExclusionTable} (h : load path reading version = .ok t) : t.version = version := by
  cases reading with
  | failure reason => cases h
  | content bytes =>
    obtain ⟨records, -, rfl⟩ := load_eq_ok_iff.1 h
    rfl

def ExclusionTable.Older (t u : ExclusionTable) : Prop :=
  t.version < u.version

instance (t u : ExclusionTable) : Decidable (t.Older u) :=
  inferInstanceAs (Decidable (t.version < u.version))

instance : Trans ExclusionTable.Older ExclusionTable.Older ExclusionTable.Older :=
  ⟨UInt64.lt_trans⟩

namespace ExclusionStore

variable {s : ExclusionStore} {steps earlier : List StoreStep} {path : String}
  {reading : FileReading} {t table : ExclusionTable}

def step (s : ExclusionStore) : StoreStep → ExclusionStore
  | .reload path reading => (s.reload path reading).1
  | .replace table => s.replace table

def stepAll (s : ExclusionStore) (steps : List StoreStep) : ExclusionStore :=
  steps.foldl step s

/-- The table that a step publishes. -/
def swapped? (s : ExclusionStore) : StoreStep → Option ExclusionTable
  | .reload path reading => (s.reload path reading).2.toOption
  | .replace table => some table

/-- The tables that a run publishes. -/
def swaps (s : ExclusionStore) : List StoreStep → List ExclusionTable
  | [] => []
  | first :: rest => (s.swapped? first).toList ++ (s.step first).swaps rest

theorem stepAll_concat (s : ExclusionStore) (steps : List StoreStep) (last : StoreStep) :
    s.stepAll (steps ++ [last]) = (s.stepAll steps).step last :=
  List.foldl_concat ..

theorem swaps_concat (s : ExclusionStore) (steps : List StoreStep) (last : StoreStep) :
    s.swaps (steps ++ [last]) = s.swaps steps ++ ((s.stepAll steps).swapped? last).toList := by
  induction steps generalizing s with
  | nil => exact List.append_nil _
  | cons first rest ih =>
    rw [List.cons_append, swaps, swaps, ih, List.append_assoc]
    rfl

/-! ## One reload -/

theorem reload_of_error {e : Error} (failed : (s.reload path reading).2 = .error e) :
    (s.reload path reading).1 = { s with nextVersion := s.nextVersion + 1 } := by
  unfold reload at failed ⊢
  cases loaded : ExclusionTable.load path reading s.nextVersion with
  | error e => rfl
  | ok t =>
    rw [loaded] at failed
    cases failed

theorem reload_of_ok (ok : (s.reload path reading).2 = .ok t) :
    t.version = s.nextVersion ∧ (s.reload path reading).1 = ⟨t, s.nextVersion + 1⟩ := by
  unfold reload at ok ⊢
  cases loaded : ExclusionTable.load path reading s.nextVersion with
  | error e =>
    rw [loaded] at ok
    cases ok
  | ok t' =>
    rw [loaded] at ok
    cases ok
    exact ⟨ExclusionTable.version_of_load loaded, rfl⟩

theorem nextVersion_reload (s : ExclusionStore) (path : String) (reading : FileReading) :
    (s.reload path reading).1.nextVersion = s.nextVersion + 1 := by
  cases outcome : (s.reload path reading).2 with
  | error e => rw [reload_of_error outcome]
  | ok t => rw [(reload_of_ok outcome).2]

theorem swapped?_reload_iff :
    s.swapped? (.reload path reading) = some t ↔ (s.reload path reading).2 = .ok t := by
  rw [swapped?]
  cases (s.reload path reading).2 with
  | error e => exact ⟨nofun, nofun⟩
  | ok t' => exact ⟨fun h => congrArg _ (Option.some.inj h), congrArg _⟩

theorem current_step (s : ExclusionStore) (step : StoreStep) :
    (s.step step).current = (s.swapped? step).getD s.current := by
  cases step with
  | replace table => rfl
  | reload path reading =>
    rw [ExclusionStore.step, swapped?]
    cases outcome : (s.reload path reading).2 with
    | error e => rw [reload_of_error outcome]; rfl
    | ok t => rw [(reload_of_ok outcome).2]; rfl

/-! ## Runs -/

theorem getLast?_swaps (s : ExclusionStore) (steps : List StoreStep) :
    (s.current :: s.swaps steps).getLast? = some (s.stepAll steps).current := by
  induction steps using List.reverseRecOn with
  | nil => rfl
  | append_singleton steps last ih =>
    rw [swaps_concat, stepAll_concat, current_step]
    cases (s.stepAll steps).swapped? last with
    | none => rwa [Option.toList_none, List.append_nil]
    | some table =>
      rw [Option.toList_some, ← List.cons_append, List.getLast?_concat]
      rfl

/-- The count goes up by one for each reload, whatever is published. -/
theorem nextVersion_stepAll (room : s.nextVersion.toNat + reloads steps < 2 ^ 64) :
    (s.stepAll steps).nextVersion.toNat = s.nextVersion.toNat + reloads steps := by
  induction steps using List.reverseRecOn with
  | nil => rfl
  | append_singleton steps last ih =>
    rw [reloads, List.countP_append] at room ⊢
    rw [stepAll_concat]
    cases last with
    | replace table => exact ih room
    | reload path reading =>
      have before := ih (Nat.lt_of_succ_lt room)
      rw [step, nextVersion_reload, UInt64.toNat_add, before]
      exact Nat.mod_eq_of_lt room

/-- A published table was put in, or was read under a version that the count has passed. -/
theorem origin_of_mem_swaps (room : s.nextVersion.toNat + reloads steps < 2 ^ 64)
    (h : t ∈ s.swaps steps) :
    .replace t ∈ steps ∨ t.version.toNat < s.nextVersion.toNat + reloads steps := by
  induction steps using List.reverseRecOn with
  | nil => cases h
  | append_singleton steps last ih =>
    rw [reloads, List.countP_append] at room ⊢
    rw [swaps_concat, List.mem_append, Option.mem_toList] at h
    have before : s.nextVersion.toNat + reloads steps < 2 ^ 64 :=
      Nat.lt_of_le_of_lt (Nat.add_le_add_left (Nat.le_add_right _ _) _) room
    obtain earlier | last_swap := h
    · obtain put | passed := ih before earlier
      · exact .inl (List.mem_append_left _ put)
      · exact .inr (Nat.lt_of_lt_of_le passed (Nat.add_le_add_left (Nat.le_add_right _ _) _))
    · cases last with
      | replace table =>
        obtain rfl : table = t := Option.some.inj last_swap
        exact .inl (List.mem_append_right _ List.mem_cons_self)
      | reload path reading =>
        refine .inr ?_
        rw [(reload_of_ok (swapped?_reload_iff.1 last_swap)).1, nextVersion_stepAll before]
        exact Nat.add_lt_add_left (Nat.lt_succ_self _) _

theorem mem_swaps_of_replace (s : ExclusionStore) (h : .replace t ∈ steps) : t ∈ s.swaps steps := by
  induction steps generalizing s with
  | nil => cases h
  | cons first rest ih =>
    rw [swaps, List.mem_append]
    obtain rfl | later := List.mem_cons.1 h
    · exact .inl List.mem_cons_self
    · exact .inr (ih _ later)

/-! ## Forward -/

/-- Each table that is put in lies above the one that is current then. -/
def Ascending (s : ExclusionStore) (steps : List StoreStep) : Prop :=
  ∀ earlier table, earlier ++ [.replace table] <+: steps →
    (s.stepAll earlier).current.version < table.version

/-- At each reload that publishes a table, the count has passed the tables that were put in. -/
def Overtaken (s : ExclusionStore) (steps : List StoreStep) : Prop :=
  ∀ earlier path reading, earlier ++ [.reload path reading] <+: steps →
    ((s.stepAll earlier).swapped? (.reload path reading)).isSome →
      ∀ table, .replace table ∈ earlier →
        table.version.toNat < s.nextVersion.toNat + reloads earlier

/-- Each table lies above the one before it. -/
def Forward (tables : List ExclusionTable) : Prop :=
  tables.IsChain ExclusionTable.Older

theorem Forward.version_lt_of_mem {tables : List ExclusionTable} {last : ExclusionTable}
    (h : Forward (tables ++ [last])) (mem : t ∈ tables) : t.version < last.version := by
  have pairs := List.isChain_iff_pairwise.1 h
  exact (List.pairwise_append.1 pairs).2.2 t mem last List.mem_cons_self

theorem forward_concat :
    Forward (s.current :: s.swaps steps ++ [t]) ↔
      Forward (s.current :: s.swaps steps) ∧ (s.stepAll steps).current.version < t.version := by
  rw [Forward, List.isChain_append, getLast?_swaps]
  constructor
  · rintro ⟨before, -, joint⟩
    exact ⟨before, joint _ rfl _ rfl⟩
  · rintro ⟨before, above⟩
    refine ⟨before, .singleton _, ?_⟩
    rintro _ ⟨⟩ _ ⟨⟩
    exact above

theorem Ascending.before {last : StoreStep} (h : s.Ascending (steps ++ [last])) :
    s.Ascending steps :=
  fun earlier table part => h earlier table (part.trans (List.prefix_append _ _))

theorem overtaken_concat {last : StoreStep} :
    s.Overtaken (steps ++ [last]) ↔ s.Overtaken steps ∧
      ∀ path reading, last = .reload path reading → ((s.stepAll steps).swapped? last).isSome →
        ∀ table, .replace table ∈ steps →
          table.version.toNat < s.nextVersion.toNat + reloads steps := by
  constructor
  · intro h
    refine ⟨fun earlier path reading part => h earlier path reading
      (part.trans (List.prefix_append _ _)), ?_⟩
    rintro path reading rfl
    exact h steps path reading (List.prefix_refl _)
  · rintro ⟨before, now⟩ earlier path reading part
    obtain whole | part := List.prefix_concat_iff.1 part
    · obtain ⟨rfl, same⟩ := List.append_inj' whole rfl
      obtain rfl := List.singleton_inj.1 same
      exact now path reading rfl
    · exact before earlier path reading part

theorem forward_iff_overtaken (inOrder : s.InOrder) (ascending : s.Ascending steps)
    (room : s.nextVersion.toNat + reloads steps < 2 ^ 64) :
    Forward (s.current :: s.swaps steps) ↔ s.Overtaken steps := by
  induction steps using List.reverseRecOn with
  | nil =>
    refine ⟨fun _ earlier path reading part => ?_, fun _ => .singleton _⟩
    exact absurd (List.prefix_nil.1 part) (List.append_ne_nil_of_right_ne_nil _ nofun)
  | append_singleton steps last ih =>
    have fewer : reloads steps ≤ reloads (steps ++ [last]) := by
      rw [reloads, reloads, List.countP_append]
      exact Nat.le_add_right _ _
    have still : s.nextVersion.toNat + reloads steps < 2 ^ 64 := by omega
    have ih := ih ascending.before still
    rw [overtaken_concat, swaps_concat]
    cases last with
    | replace table =>
      have above : (s.stepAll steps).current.version < table.version :=
        ascending steps table (List.prefix_refl _)
      rw [swapped?, Option.toList_some, ← List.cons_append, forward_concat, ih]
      exact ⟨fun h => ⟨h.1, nofun⟩, fun h => ⟨h.1, above⟩⟩
    | reload path reading =>
      cases outcome : (s.stepAll steps).swapped? (.reload path reading) with
      | none =>
        rw [Option.toList_none, List.append_nil, ih]
        exact ⟨fun h => ⟨h, nofun⟩, fun h => h.1⟩
      | some t =>
        -- The table is read under the count as it stands.
        have version : t.version.toNat = s.nextVersion.toNat + reloads steps := by
          rw [(reload_of_ok (swapped?_reload_iff.1 outcome)).1, nextVersion_stepAll still]
        rw [Option.toList_some, ← List.cons_append]
        constructor
        · intro forward
          refine ⟨ih.1 (forward_concat.1 forward).1, ?_⟩
          intro _ _ _ _ table put
          have above : table.version < t.version :=
            forward.version_lt_of_mem (List.mem_cons_of_mem _ (s.mem_swaps_of_replace put))
          exact version ▸ UInt64.lt_iff_toNat_lt.1 above
        · rintro ⟨overtaken, now⟩
          refine forward_concat.2 ⟨ih.2 overtaken, UInt64.lt_iff_toNat_lt.2 (version ▸ ?_)⟩
          have current := List.mem_of_getLast? (s.getLast?_swaps steps)
          obtain first | swapped := List.mem_cons.1 current
          · have below := UInt64.lt_iff_toNat_lt.1 inOrder
            rw [first]
            omega
          · obtain put | passed := origin_of_mem_swaps still swapped
            · exact now path reading rfl rfl _ put
            · exact passed

/-- A run over a table in which each table that is put in lies above the one current then, and the
count does not reach its end. A reload that fails leaves the current table, entries and version; any
other publishes under the count: the version of the first table, one, and the reloads before it. And
all swaps go forward exactly if each reload that publishes finds the tables put in before it
overtaken by the count. -/
theorem forward_while_overtaken (t : ExclusionTable) (steps : List StoreStep)
    (ascending : (ofTable t).Ascending steps)
    (room : t.version.toNat + 1 + reloads steps < 2 ^ 64) :
    (∀ earlier path reading, earlier ++ [.reload path reading] <+: steps →
      let before := (ofTable t).stepAll earlier
      let after := (ofTable t).stepAll (earlier ++ [.reload path reading])
      match (before.reload path reading).2 with
      | .error _ => after.current = before.current
      | .ok table => after.current = table ∧
          table.version.toNat = t.version.toNat + 1 + reloads earlier) ∧
    (Forward (t :: (ofTable t).swaps steps) ↔ (ofTable t).Overtaken steps) := by
  have start : (ofTable t).nextVersion.toNat = t.version.toNat + 1 := by
    rw [ofTable, UInt64.toNat_add]
    exact Nat.mod_eq_of_lt (Nat.lt_of_le_of_lt (Nat.le_add_right _ _) room)
  rw [← start] at room ⊢
  refine ⟨?_, forward_iff_overtaken (inOrder_ofTable (by omega)) ascending room⟩
  intro earlier path reading part before after
  have reached : after = (before.reload path reading).1 := stepAll_concat _ _ _
  have fewer : reloads earlier ≤ reloads steps :=
    ((List.prefix_append _ _).trans part).sublist.countP_le
  have count : before.nextVersion.toNat = (ofTable t).nextVersion.toNat + reloads earlier :=
    nextVersion_stepAll (by omega)
  cases outcome : (before.reload path reading).2 with
  | error e =>
    dsimp only
    rw [reached, reload_of_error outcome]
  | ok table =>
    obtain ⟨version, published⟩ := reload_of_ok outcome
    dsimp only
    rw [reached, published]
    exact ⟨rfl, version ▸ count⟩

/-- Two failed reloads take the count past the table that is put in then. -/
theorem forward_past_failures :
    let steps : List StoreStep := [.reload "list" .missing, .reload "list" .missing,
      .replace (.empty 2), .reload "list" (.content [])]
    (empty.swaps steps).map (·.version) = [2, 3] ∧ Forward (.empty 0 :: empty.swaps steps) := by
  intro steps
  have ascending : empty.Ascending steps := by
    intro earlier table part
    rcases earlier with _ | ⟨_, _ | ⟨_, _ | ⟨_, _ | ⟨_, _⟩⟩⟩⟩ <;> simp [steps] at part
    obtain ⟨rfl, rfl, rfl⟩ := part
    decide
  have overtaken : empty.Overtaken steps := by
    intro earlier path reading part published table put
    rcases earlier with _ | ⟨_, _ | ⟨_, _ | ⟨_, _ | ⟨_, _⟩⟩⟩⟩ <;> simp [steps] at part
    · cases put
    · obtain ⟨rfl, -⟩ := part
      simp at put
    · obtain ⟨rfl, rfl, rfl, -⟩ := part
      obtain rfl : table = .empty 2 := by simpa using put
      decide
  exact ⟨rfl, (forward_while_overtaken (.empty 0) steps ascending (by decide)).2.2 overtaken⟩

/-- A table is put in far above the count, and the reload behind it goes back. -/
theorem reload_falls_behind :
    let steps : List StoreStep := [.replace (.empty 42), .reload "list" (.content [])]
    empty.Ascending steps ∧ (empty.stepAll steps).current.version = 1 ∧
      ¬ Forward (.empty 0 :: empty.swaps steps) := by
  intro steps
  refine ⟨?_, rfl, ?_⟩
  · intro earlier table part
    rcases earlier with _ | ⟨_, _ | ⟨_, _⟩⟩ <;> simp [steps] at part
    obtain rfl := part
    decide
  · rw [Forward]
    decide

end ExclusionStore

end Registrar
