import Registrar.Exclusion.Watcher
import Registrar.Proofs.ListFile
import Mathlib.Data.List.Chain

/-! The watcher keeps the published list in step with its file. Over any history of writes,
deletions and polls, a poll at which the file holds a list leaves that list published, and any other
poll leaves the published list as it was. -/
namespace Registrar
set_option autoImplicit false

/-! ## What a poll does -/

namespace ExclusionWatcher

/-- The watcher after an attempt to publish what `f` holds. -/
def tried (w : ExclusionWatcher) (f : WatchedFile) (current : ExclusionTable) : ExclusionWatcher :=
  { w with
    store := ⟨current, w.store.nextVersion + 1⟩
    lastSeen := some f.fingerprint }

/-- The four ways of a poll: from the watcher before it and the file that it meets to the watcher
after it and whether a new table was published. -/
inductive PollCase (w : ExclusionWatcher) : Option WatchedFile → ExclusionWatcher × Bool → Prop
  | missing : PollCase w none ({ w with lastSeen := none }, false)
  | unchanged (f : WatchedFile) (seen : w.lastSeen = some f.fingerprint) :
    PollCase w (some f) (w, false)
  | malformed (f : WatchedFile) (fresh : w.lastSeen ≠ some f.fingerprint)
      (unlisted : ExclusionRecord.ofContent? f.content = none) :
    PollCase w (some f) (w.tried f w.store.current, false)
  | published (f : WatchedFile) (fresh : w.lastSeen ≠ some f.fingerprint)
      (records : List ExclusionRecord)
      (listed : ExclusionRecord.ofContent? f.content = some records) :
    PollCase w (some f) (w.tried f (.ofRecords records w.store.nextVersion), true)

theorem poll_cases (w : ExclusionWatcher) (file : Option WatchedFile) :
    PollCase w file (w.poll file) := by
  cases file with
  | none => exact .missing
  | some f =>
    by_cases seen : w.lastSeen = some f.fingerprint
    · rw [poll, if_pos seen]
      exact .unchanged f seen
    · simp only [poll, if_neg seen, ExclusionStore.reload, ExclusionTable.load_content]
      cases listed : ExclusionRecord.ofContent? f.content with
      | none => exact .malformed f seen listed
      | some records => exact .published f seen records listed

namespace PollCase

variable {w : ExclusionWatcher} {file : Option WatchedFile} {after : ExclusionWatcher × Bool}

theorem published_of_true (h : PollCase w file after) (path : String) (swapped : after.2 = true) :
    ∃ f, file = some f ∧ ExclusionTable.load path (.content f.content) w.store.nextVersion =
      .ok after.1.store.current := by
  cases h with
  | missing => cases swapped
  | unchanged => cases swapped
  | malformed => cases swapped
  | published f fresh records listed =>
    exact ⟨f, rfl, ExclusionTable.load_eq_ok_iff.2 ⟨records, listed, rfl⟩⟩

theorem true_of_fresh {f : WatchedFile} {records : List ExclusionRecord}
    (h : PollCase w (some f) after) (fresh : w.lastSeen ≠ some f.fingerprint)
    (listed : ExclusionRecord.ofContent? f.content = some records) : after.2 = true := by
  cases h with
  | unchanged f seen => exact absurd seen fresh
  | malformed f fresh unlisted => exact absurd (unlisted.symm.trans listed) nofun
  | published => rfl

theorem kept_of_false (h : PollCase w file after) (kept : after.2 = false) :
    after.1.store.current = w.store.current := by
  cases h with
  | missing => rfl
  | unchanged => rfl
  | malformed => rfl
  | published => cases kept

end PollCase

end ExclusionWatcher

/-! ## Histories -/

/-- What happens to the file, and the polls of the watcher. -/
inductive FileStep where
  | write (f : WatchedFile)
  | delete
  | poll

/-- A watcher and its file. -/
structure Watching where
  watcher : ExclusionWatcher
  file : Option WatchedFile

namespace Watching

def table (s : Watching) : ExclusionTable :=
  s.watcher.store.current

/-- What the next poll would come to. -/
def polled (s : Watching) : ExclusionWatcher × Bool :=
  s.watcher.poll s.file

def step (s : Watching) : FileStep → Watching
  | .write f => { s with file := some f }
  | .delete => { s with file := none }
  | .poll => { s with watcher := s.polled.1 }

def run (s : Watching) (history : List FileStep) : Watching :=
  history.foldl step s

/-- The file at each poll of a history. -/
def seenFrom (file : Option WatchedFile) : List FileStep → List (Option WatchedFile)
  | [] => []
  | .write f :: rest => seenFrom (some f) rest
  | .delete :: rest => seenFrom none rest
  | .poll :: rest => file :: seenFrom file rest

theorem run_append (s : Watching) (earlier later : List FileStep) :
    s.run (earlier ++ later) = (s.run earlier).run later :=
  List.foldl_append

theorem seenFrom_append (s : Watching) (earlier later : List FileStep) :
    seenFrom s.file (earlier ++ later) =
      seenFrom s.file earlier ++ seenFrom (s.run earlier).file later := by
  induction earlier generalizing s with
  | nil => rfl
  | cons action rest ih =>
    cases action with
    | write f => exact ih (s.step (.write f))
    | delete => exact ih (s.step .delete)
    | poll => exact congrArg (s.file :: ·) (ih (s.step .poll))

/-- Two files met one after the other have different fingerprints if their contents differ. -/
def ToldApart : Option WatchedFile → Option WatchedFile → Prop
  | some f, some g => f.fingerprint = g.fingerprint → f.content = g.content
  | _, _ => True

/-! ## The published list -/

/-- After polls of which the last one met `last`: the watcher remembers its fingerprint, and if it
was a list, that list is published. -/
structure InStep (w : ExclusionWatcher) (last : Option (Option WatchedFile)) : Prop where
  seen : w.lastSeen = last.join.map (·.fingerprint)
  held : ∀ f records, last = some (some f) → ExclusionRecord.ofContent? f.content = some records →
    ∃ version, w.store.current = .ofRecords records version

theorem InStep.poll {w : ExclusionWatcher} {last : Option (Option WatchedFile)}
    {file : Option WatchedFile} (h : InStep w last)
    (told : ∀ before, last = some before → ToldApart before file) :
    InStep (w.poll file).1 (some file) := by
  have cases := w.poll_cases file
  generalize w.poll file = result at cases ⊢
  cases cases with
  | missing => exact ⟨rfl, nofun⟩
  | unchanged f seen =>
    refine ⟨seen, ?_⟩
    rintro _ records ⟨⟩ listed
    -- The fingerprint is remembered from the poll before, which met the same content.
    obtain ⟨before, hlast, same⟩ := Option.map_eq_some_iff.1 (h.seen.symm.trans seen)
    have hlast := Option.join_eq_some_iff.1 hlast
    have content : before.content = f.content := told _ hlast same
    exact h.held before records hlast (content ▸ listed)
  | malformed f fresh unlisted =>
    refine ⟨rfl, ?_⟩
    rintro _ records ⟨⟩ listed
    exact absurd (unlisted.symm.trans listed) nofun
  | published f fresh records listed =>
    refine ⟨rfl, ?_⟩
    rintro _ records' ⟨⟩ listed'
    obtain rfl := Option.some.inj (listed.symm.trans listed')
    exact ⟨_, rfl⟩

theorem inStep_run {s : Watching} (start : s.watcher.lastSeen = none) (history : List FileStep)
    (told : (seenFrom s.file history).IsChain ToldApart) :
    InStep (s.run history).watcher (seenFrom s.file history).getLast? := by
  -- From the right: what a poll remembers is compared with the poll before it.
  induction history using List.reverseRecOn with
  | nil => exact ⟨start, nofun⟩
  | append_singleton history action ih =>
    rw [seenFrom_append] at told ⊢
    rw [run_append]
    cases action with
    | write f =>
      rw [seenFrom, seenFrom, List.append_nil] at told ⊢
      exact ih told
    | delete =>
      rw [seenFrom, seenFrom, List.append_nil] at told ⊢
      exact ih told
    | poll =>
      rw [seenFrom, seenFrom] at told ⊢
      obtain ⟨told, -, joint⟩ := List.isChain_append.1 told
      rw [List.getLast?_concat]
      exact (ih told).poll fun before last => joint before last _ rfl

end Watching

/-! ## Versions -/

namespace ExclusionStore

/-- The version of the published list lies below the next one. -/
def InOrder (s : ExclusionStore) : Prop :=
  s.current.version < s.nextVersion

/-- From `s` to `t` the versions stay in order and do not fall, and at most so many were used. -/
structure Rises (s t : ExclusionStore) (used : Nat) : Prop where
  inOrder : t.InOrder
  version_le : s.current.version ≤ t.current.version
  nextVersion_le : t.nextVersion.toNat ≤ s.nextVersion.toNat + used

variable {s t u : ExclusionStore} {m n : Nat}

theorem inOrder_ofTable {t : ExclusionTable} (room : t.version.toNat + 1 < 2 ^ 64) :
    (ofTable t).InOrder := by
  have next : (t.version + 1).toNat = t.version.toNat + 1 := by
    rw [UInt64.toNat_add]
    exact Nat.mod_eq_of_lt room
  exact UInt64.lt_iff_toNat_lt.2 (next ▸ Nat.lt_succ_self _)

theorem InOrder.rises (h : s.InOrder) : Rises s s n :=
  ⟨h, UInt64.le_refl _, Nat.le_add_right _ _⟩

theorem Rises.trans (first : Rises s t m) (second : Rises t u n) : Rises s u (m + n) where
  inOrder := second.inOrder
  version_le := UInt64.le_trans first.version_le second.version_le
  nextVersion_le := by
    have one := first.nextVersion_le
    have two := second.nextVersion_le
    omega

/-- A version is used up: by the list published now, or by none. -/
theorem InOrder.rises_succ (h : s.InOrder) (room : s.nextVersion.toNat + 1 < 2 ^ 64)
    {current : ExclusionTable}
    (now : current = s.current ∨ current.version = s.nextVersion) :
    Rises s ⟨current, s.nextVersion + 1⟩ 1 := by
  have next : (s.nextVersion + 1).toNat = s.nextVersion.toNat + 1 := by
    rw [UInt64.toNat_add]
    exact Nat.mod_eq_of_lt room
  have below : s.current.version.toNat < s.nextVersion.toNat := h
  have within : s.current.version.toNat ≤ current.version.toNat ∧
      current.version.toNat ≤ s.nextVersion.toNat := by
    obtain rfl | now := now
    · exact ⟨Nat.le_refl _, Nat.le_of_lt below⟩
    · rw [now]
      exact ⟨Nat.le_of_lt below, Nat.le_refl _⟩
  refine ⟨UInt64.lt_iff_toNat_lt.2 ?_, UInt64.le_iff_toNat_le.2 within.1, Nat.le_of_eq next⟩
  exact Nat.lt_of_le_of_lt within.2 (next ▸ Nat.lt_succ_self _)

end ExclusionStore

open ExclusionStore (Rises)

theorem ExclusionWatcher.PollCase.rises {w : ExclusionWatcher} {file : Option WatchedFile}
    {after : ExclusionWatcher × Bool} (h : PollCase w file after) (inOrder : w.store.InOrder)
    (room : w.store.nextVersion.toNat + 1 < 2 ^ 64) : Rises w.store after.1.store 1 := by
  cases h with
  | missing => exact inOrder.rises
  | unchanged => exact inOrder.rises
  | malformed => exact inOrder.rises_succ room (.inl rfl)
  | published => exact inOrder.rises_succ room (.inr rfl)

namespace Watching

theorem rises_run {s : Watching} (inOrder : s.watcher.store.InOrder) (history : List FileStep)
    (room : s.watcher.store.nextVersion.toNat + (seenFrom s.file history).length < 2 ^ 64) :
    Rises s.watcher.store (s.run history).watcher.store (seenFrom s.file history).length := by
  induction history generalizing s with
  | nil => exact inOrder.rises
  | cons action rest ih =>
    cases action with
    | write f => exact ih (s := s.step (.write f)) inOrder room
    | delete => exact ih (s := s.step .delete) inOrder room
    | poll =>
      -- The poll uses up one version at most, and leaves room for those behind it.
      rw [seenFrom, List.length_cons] at room ⊢
      have first : Rises s.watcher.store (s.step .poll).watcher.store 1 :=
        (s.watcher.poll_cases s.file).rises inOrder (by omega)
      have still : (s.step .poll).watcher.store.nextVersion.toNat +
          (seenFrom (s.step .poll).file rest).length < 2 ^ 64 := by
        have reached := first.nextVersion_le
        change _ + (seenFrom s.file rest).length < _
        omega
      rw [Nat.add_comm]
      exact first.trans (ih first.inOrder still)

theorem version_le_of_earlier {s : Watching} (inOrder : s.watcher.store.InOrder)
    {earlier history : List FileStep} (part : earlier <+: history)
    (room : s.watcher.store.nextVersion.toNat + (seenFrom s.file history).length < 2 ^ 64) :
    (s.run earlier).table.version ≤ (s.run history).table.version := by
  obtain ⟨later, rfl⟩ := part
  rw [seenFrom_append, List.length_append] at room
  have first := rises_run inOrder earlier (by omega)
  have reached := first.nextVersion_le
  rw [run_append]
  exact (rises_run first.inOrder later (by omega)).version_le

/-! ## Convergence -/

/-- A watcher over a store, before its first poll, that takes nothing as loaded. -/
def start (store : ExclusionStore) (path : String) (file : Option WatchedFile) : Watching :=
  ⟨.start store path file false, file⟩

/-- The published list follows the file. After a poll that meets a list, its entries are published;
any other poll leaves the published table as it is. A poll says that it published a table exactly
when it did, and while versions last, exactly when the version now lies above all earlier ones. -/
theorem poll_converges (store : ExclusionStore) (path : String) (file : Option WatchedFile)
    (history : List FileStep) (told : (seenFrom file (history ++ [.poll])).IsChain ToldApart) :
    let before := (start store path file).run history
    let after := before.step .poll
    (∀ f version t, before.file = some f →
      ExclusionTable.load path (.content f.content) version = .ok t →
        after.table.entries = t.entries) ∧
    ((∀ f version t, before.file = some f →
      ExclusionTable.load path (.content f.content) version ≠ .ok t) →
        after.table = before.table) ∧
    (before.polled.2 = true → ∃ f, before.file = some f ∧
      ExclusionTable.load path (.content f.content) before.watcher.store.nextVersion =
        .ok after.table) ∧
    (before.polled.2 = false → after.table = before.table) ∧
    (store.InOrder → store.nextVersion.toNat + (seenFrom file history).length < 2 ^ 64 →
      (before.polled.2 = true ↔
        ∀ earlier, earlier <+: history →
          ((start store path file).run earlier).table.version < after.table.version)) := by
  intro before after
  have joined : seenFrom file (history ++ [.poll]) = seenFrom file history ++ [before.file] :=
    seenFrom_append (start store path file) history [.poll]
  have inStep : InStep after.watcher (some before.file) := by
    have whole : InStep ((start store path file).run (history ++ [.poll])).watcher
        (seenFrom file (history ++ [.poll])).getLast? := inStep_run rfl _ told
    rwa [run_append, joined, List.getLast?_concat] at whole
  have cases : before.watcher.PollCase before.file before.polled := before.watcher.poll_cases _
  have kept : before.polled.2 = false → after.table = before.table := cases.kept_of_false
  refine ⟨?_, ?_, cases.published_of_true path, kept, ?_⟩
  · intro f version t met loaded
    obtain ⟨records, listed, rfl⟩ := ExclusionTable.load_eq_ok_iff.1 loaded
    obtain ⟨version', held⟩ := inStep.held f records (congrArg some met) listed
    exact congrArg (·.entries) held
  · intro unlisted
    refine kept (Bool.eq_false_iff.2 fun swapped => ?_)
    obtain ⟨f, met, loaded⟩ := cases.published_of_true path swapped
    exact unlisted f _ _ met loaded
  · intro inOrder room
    constructor
    · intro swapped earlier part
      obtain ⟨f, met, loaded⟩ := cases.published_of_true path swapped
      obtain ⟨records, listed, published⟩ := ExclusionTable.load_eq_ok_iff.1 loaded
      have version : after.table.version = before.watcher.store.nextVersion :=
        congrArg (·.version) published
      have below : before.table.version < before.watcher.store.nextVersion :=
        (rises_run inOrder history room).inOrder
      rw [version]
      exact UInt64.lt_of_le_of_lt (version_le_of_earlier inOrder part room) below
    · intro above
      by_contra unswapped
      have same := kept (Bool.eq_false_iff.2 unswapped)
      have self := above history (List.prefix_refl _)
      rw [same] at self
      exact absurd self (UInt64.lt_irrefl _)

/-- A file is deleted and written anew with another list, at the same time and of the same length:
the list is published all the same, under a version above all before. -/
theorem poll_converges_recreated :
    let first : ExclusionRecord := ⟨.replicate 48 0x01, ⟨true, false⟩⟩
    let second : ExclusionRecord := ⟨.replicate 48 0x02, ⟨true, false⟩⟩
    let history : List FileStep :=
      [.write ⟨ExclusionRecord.written [first], 1⟩, .poll, .delete, .poll,
        .write ⟨ExclusionRecord.written [second], 1⟩]
    let after := ((start .empty "list" none).run history).step .poll
    (seenFrom none (history ++ [.poll])).IsChain ToldApart ∧
      after.table.entries = (ExclusionTable.ofRecords [second] 0).entries ∧
      ∀ earlier, earlier <+: history →
        ((start .empty "list" none).run earlier).table.version < after.table.version := by
  intro first second history after
  have told : (seenFrom none (history ++ [.poll])).IsChain ToldApart := by
    simp [history, seenFrom, ToldApart]
  have loaded := ExclusionTable.load_written "list" [second]
  obtain ⟨published, -, -, -, rises⟩ := poll_converges .empty "list" none history told
  refine ⟨told, published _ 0 _ rfl (loaded 0), (rises ?_ ?_).1 ?_⟩
  · exact ExclusionStore.inOrder_ofTable (by decide)
  · decide
  · -- The poll that met no file left no fingerprint behind.
    have forgotten : ((start .empty "list" none).run history).watcher.lastSeen = none := rfl
    exact (ExclusionWatcher.poll_cases _ _).true_of_fresh (forgotten ▸ nofun)
      (ExclusionRecord.ofContent?_written [second])

/-- Two lists of nothing, the second in a file that was written later. -/
def blankTwice : List FileStep :=
  [.write ⟨[], 1⟩, .poll, .write ⟨[0x20], 2⟩]

/-- A store near the last version gives the list of the second poll version 0, below the one that
was published before. -/
theorem poll_wraps :
    let before := (start (.ofTable (.empty 0xfffffffffffffffe)) "list" none).run blankTwice
    (seenFrom none (blankTwice ++ [.poll])).IsChain ToldApart ∧
      before.polled.2 = true ∧ before.table.version = 0xffffffffffffffff ∧
      (before.step .poll).table.version = 0 := by
  intro before
  refine ⟨?_, rfl, rfl, rfl⟩
  simp [blankTwice, seenFrom, ToldApart, WatchedFile.fingerprint]

end Watching

end Registrar
