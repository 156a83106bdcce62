import Registrar.Proofs.Watching
import Registrar.Startup

/-! The list that is loaded at the start and the watcher that takes over from it. The watcher counts
the file that it first meets as loaded. If that is not the file that was loaded, what was written in
between stays unpublished until the file is written again; otherwise no list is lost. -/
namespace Registrar
set_option autoImplicit false

/-! ## Histories of writes -/

def writes : List FileStep → List WatchedFile
  | [] => []
  | .write f :: rest => f :: writes rest
  | .delete :: rest | .poll :: rest => writes rest

namespace ExclusionWatcher

theorem lastSeen_poll (w : ExclusionWatcher) (file : Option WatchedFile) :
    (w.poll file).1.lastSeen = file.map (·.fingerprint) := by
  have cases := w.poll_cases file
  generalize w.poll file = after at cases ⊢
  cases cases with
  | missing => rfl
  | unchanged f seen => exact seen
  | malformed => rfl
  | published => rfl

end ExclusionWatcher

namespace Watching

variable {s : Watching} {f : WatchedFile} {written : List WatchedFile} {history : List FileStep}

/-- A poll that meets what was met before changes nothing. -/
theorem step_poll_of_seen (at_ : s.file = some f)
    (seen : s.watcher.lastSeen = some f.fingerprint) : s.step .poll = s := by
  have same : s.watcher.poll (some f) = (s.watcher, false) := if_pos seen
  rw [step, polled, at_, same, ← at_]

/-- Of the files written so far the last one is in place and one was met last; if these two have one
fingerprint, the list of the file is published. -/
structure Abreast (s : Watching) (written : List WatchedFile) : Prop where
  file : s.file = written.getLast?
  seen : ∃ f ∈ written, s.watcher.lastSeen = some f.fingerprint
  held : ∀ f records, s.file = some f → s.watcher.lastSeen = some f.fingerprint →
    ExclusionRecord.ofContent? f.content = some records →
      ∃ version, s.table = .ofRecords records version

/-- Once a file is written that is unlike all before it, the watcher is behind it and not astray. -/
theorem abreast_write (seen : ∃ f ∈ written, s.watcher.lastSeen = some f.fingerprint)
    (distinct : ((written ++ [f]).map (·.fingerprint)).Nodup) :
    Abreast (s.step (.write f)) (written ++ [f]) where
  file := List.getLast?_concat.symm
  seen := seen.imp fun _ h => ⟨List.mem_append_left _ h.1, h.2⟩
  held := by
    rintro _ records ⟨⟩ same -
    obtain ⟨g, hg, seen⟩ := seen
    rw [List.map_append, List.nodup_append] at distinct
    have unlike : g.fingerprint ≠ f.fingerprint :=
      distinct.2.2 _ (List.mem_map.2 ⟨g, hg, rfl⟩) _ List.mem_cons_self
    exact absurd (Option.some.inj (seen.symm.trans same)) unlike

theorem Abreast.poll (h : Abreast s written) : Abreast (s.step .poll) written := by
  obtain ⟨g, hg, -⟩ := h.seen
  obtain ⟨f, last⟩ := Option.ne_none_iff_exists'.1
    (mt List.getLast?_eq_none_iff.1 (List.ne_nil_of_mem hg))
  have at_ : s.file = some f := h.file.trans last
  refine ⟨h.file, ⟨f, List.mem_of_getLast? last, ?_⟩, ?_⟩
  · exact (s.watcher.lastSeen_poll s.file).trans (congrArg _ at_)
  · intro f' records met seen listed
    obtain rfl : f = f' := Option.some.inj (at_.symm.trans met)
    have cases := s.watcher.poll_cases s.file
    change ∃ version, (s.watcher.poll s.file).1.store.current = _
    rw [at_] at cases ⊢
    generalize s.watcher.poll (some f) = after at cases ⊢
    -- With the fingerprint known, what was held before is held still; without it the file is read.
    cases cases with
    | unchanged f seen => exact h.held f records at_ seen listed
    | malformed f fresh unlisted => exact absurd (unlisted.symm.trans listed) nofun
    | published f fresh records' listed' =>
      obtain rfl := Option.some.inj (listed'.symm.trans listed)
      exact ⟨_, rfl⟩

theorem Abreast.run (h : Abreast s written) (kept : .delete ∉ history)
    (distinct : ((written ++ writes history).map (·.fingerprint)).Nodup) :
    Abreast (s.run history) (written ++ writes history) := by
  induction history generalizing s written with
  | nil =>
    rw [writes, List.append_nil]
    exact h
  | cons action rest ih =>
    obtain ⟨held, others⟩ := List.ne_and_not_mem_of_not_mem_cons kept
    cases action with
    | write f =>
      rw [writes, List.append_cons] at distinct ⊢
      have first := distinct.sublist ((List.sublist_append_left _ _).map _)
      exact ih (abreast_write h.seen first) others distinct
    | delete => exact absurd rfl held
    | poll => exact ih h.poll others distinct

/-- While nothing is written, a watcher that has met the file does nothing. -/
theorem run_of_unwritten (at_ : s.file = some f)
    (seen : s.watcher.lastSeen = some f.fingerprint) (kept : .delete ∉ history)
    (unwritten : writes history = []) : s.run history = s := by
  induction history with
  | nil => rfl
  | cons action rest ih =>
    obtain ⟨held, others⟩ := List.ne_and_not_mem_of_not_mem_cons kept
    cases action with
    | write g => cases unwritten
    | delete => exact absurd rfl held
    | poll =>
      have still : (s.step .poll).run rest = s := by
        rw [step_poll_of_seen at_ seen]
        exact ih others unwritten
      exact still

/-- A watcher that has met the file is abreast from the first write on. -/
theorem abreast_of_written (at_ : s.file = some f) (hf : f ∈ written)
    (seen : s.watcher.lastSeen = some f.fingerprint) (kept : .delete ∉ history)
    (distinct : ((written ++ writes history).map (·.fingerprint)).Nodup)
    (wrote : writes history ≠ []) : Abreast (s.run history) (written ++ writes history) := by
  -- Up to the first write nothing happens; with it the watcher is behind, whatever is published.
  induction history with
  | nil => exact absurd rfl wrote
  | cons action rest ih =>
    obtain ⟨held, others⟩ := List.ne_and_not_mem_of_not_mem_cons kept
    cases action with
    | write g =>
      rw [writes, List.append_cons] at distinct ⊢
      have first := distinct.sublist ((List.sublist_append_left _ _).map _)
      exact (abreast_write ⟨f, hf, seen⟩ first).run others distinct
    | delete => exact absurd rfl held
    | poll =>
      have still : Abreast ((s.step .poll).run rest) (written ++ writes rest) := by
        rw [step_poll_of_seen at_ seen]
        exact ih others distinct wrote
      exact still

end Watching

/-! ## The hand-over -/

open Watching

/-- The watch that begins over the list loaded at the start, with the file as it then is. -/
def WatchTask.watching (t : WatchTask) : Watching :=
  ⟨t.watcher, t.file⟩

/-- The first list is the one in the file that was read. -/
theorem Config.exclusionStore_eq_ok {c : Config} {path : String} {content : Bytes}
    {store : ExclusionStore} (configured : c.exclusionPath = some path)
    (loaded : c.exclusionStore (fun _ => .content content) = .ok store) :
    ∃ records, ExclusionRecord.ofContent? content = some records ∧
      store.current = .ofRecords records 1 := by
  rw [exclusionStore, configured] at loaded
  dsimp only at loaded
  cases read : ExclusionTable.load path (.content content) 1 with
  | error e =>
    rw [read] at loaded
    cases loaded
  | ok t =>
    rw [read] at loaded
    cases loaded
    exact ExclusionTable.load_eq_ok_iff.1 read

/-- The lists written since the one that was loaded. No list is lost if the watcher meets the file
that was loaded, or if a file is written after the watcher began: a poll that follows the last write
leaves its list published. If files were written before the watcher began and none since, its polls
leave the loaded list published. -/
theorem handover_publishes (c : Config) (path : String) (first : WatchedFile)
    (gap : List WatchedFile) (period : Nat) (history : List FileStep) (store : ExclusionStore)
    (configured : c.exclusionPath = some path)
    (loaded : c.exclusionStore (fun _ => .content first.content) = .ok store)
    (kept : .delete ∉ history)
    (distinct : ((first :: gap ++ writes history).map (·.fingerprint)).Nodup) :
    let begun := (WatchTask.start store path (first :: gap).getLast? period).watching
    let after := (begun.run history).step .poll
    (gap = [] ∨ writes history ≠ [] →
      ∀ last version t, (first :: gap ++ writes history).getLast? = some last →
        ExclusionTable.load path (.content last.content) version = .ok t →
          after.table.entries = t.entries) ∧
    (gap ≠ [] → writes history = [] → after.table = store.current) := by
  intro begun after
  obtain ⟨records, listed, current⟩ := Config.exclusionStore_eq_ok configured loaded
  obtain ⟨met, hmet⟩ : ∃ met, (first :: gap).getLast? = some met :=
    Option.ne_none_iff_exists'.1 (mt List.getLast?_eq_none_iff.1 (List.cons_ne_nil _ _))
  have at_ : begun.file = some met := hmet
  have seen : begun.watcher.lastSeen = some met.fingerprint := congrArg (Option.map _) hmet
  constructor
  · intro cause last version t hlast accepted
    have abreast : Abreast (begun.run history) (first :: gap ++ writes history) := by
      obtain rfl | wrote := cause
      -- The file that is met is the one that was loaded.
      · have start : Abreast begun [first] :=
          { file := rfl
            seen := ⟨first, List.mem_cons_self, rfl⟩
            held := by
              rintro _ records' ⟨⟩ - listed'
              obtain rfl := Option.some.inj (listed.symm.trans listed')
              exact ⟨1, current⟩ }
        exact start.run kept distinct
      · exact abreast_of_written at_ (List.mem_of_getLast? hmet) seen kept distinct wrote
    have in_place : after.file = some last := abreast.poll.file.trans hlast
    have met_last : after.watcher.lastSeen = some last.fingerprint :=
      (ExclusionWatcher.lastSeen_poll _ _).trans (congrArg (Option.map _) in_place)
    obtain ⟨records', listed', rfl⟩ := ExclusionTable.load_eq_ok_iff.1 accepted
    obtain ⟨version', held⟩ := abreast.poll.held last records' in_place met_last listed'
    exact congrArg (·.entries) held
  · intro _ unwritten
    have still : begun.run history = begun := run_of_unwritten at_ seen kept unwritten
    have same : after = begun := by
      rw [show after = (begun.run history).step .poll from rfl, still]
      exact step_poll_of_seen at_ seen
    rw [same]
    rfl

/-- The list of a file that was written before the watcher began is published late, and the one that
is written then is published at the next poll. -/
theorem handover_publishes_late :
    let listing (key : UInt8) : WatchedFile :=
      ⟨ExclusionRecord.written [⟨.replicate 48 key, ⟨true, false⟩⟩], key.toNat⟩
    let config := { Config.usual with exclusions := ⟨some "list.json", 10⟩ }
    let store : ExclusionStore := .ofTable (.ofRecords [⟨.replicate 48 1, ⟨true, false⟩⟩] 1)
    let begun := (WatchTask.start store "list.json" (some (listing 2)) 10000).watching
    config.exclusionStore (fun _ => .content (listing 1).content) = .ok store ∧
      (begun.step .poll).table.entries = store.current.entries ∧
      (((begun.run [.poll, .write (listing 3)]).step .poll)).table.entries =
        (ExclusionTable.ofRecords [⟨.replicate 48 3, ⟨true, false⟩⟩] 0).entries := by
  intro listing config store begun
  have configured : config.exclusionPath = some "list.json" := by decide +kernel
  have loaded : config.exclusionStore (fun _ => .content (listing 1).content) = .ok store := by
    rw [Config.exclusionStore, configured]
    dsimp only
    rw [ExclusionTable.load_written]
    rfl
  have waiting : (([listing 1, listing 2] ++ writes []).map (·.fingerprint)).Nodup := by
    simp [listing, writes, WatchedFile.fingerprint]
  have written : (([listing 1, listing 2] ++ writes [.poll, .write (listing 3)]).map
      (·.fingerprint)).Nodup := by
    simp [listing, writes, WatchedFile.fingerprint]
  refine ⟨loaded, ?_, ?_⟩
  · have stale := handover_publishes config "list.json" (listing 1) [listing 2] 10000 [] store
      configured loaded List.not_mem_nil waiting
    exact congrArg (·.entries) (stale.2 (List.cons_ne_nil _ _) rfl)
  · have caught := handover_publishes config "list.json" (listing 1) [listing 2] 10000
      [.poll, .write (listing 3)] store configured loaded (by simp) written
    exact caught.1 (.inr (List.cons_ne_nil _ _)) _ 0 _ rfl (ExclusionTable.load_written _ _ _)

/-- A list is lost: the file is written again between the load and the watcher's first look, both
contents are lists and their fingerprints differ, yet after a poll the identity that the file now
excludes is not excluded. -/
theorem handover_misses_gap :
    let listing (key : UInt8) : WatchedFile :=
      ⟨ExclusionRecord.written [⟨.replicate 48 key, ⟨true, false⟩⟩], key.toNat⟩
    let config := { Config.usual with exclusions := ⟨some "list.json", 10⟩ }
    (listing 1).fingerprint ≠ (listing 2).fingerprint ∧
      ExclusionTable.load "list.json" (.content (listing 2).content) 2 =
        .ok (.ofRecords [⟨.replicate 48 2, ⟨true, false⟩⟩] 2) ∧
      ∃ store, config.exclusionStore (fun _ => .content (listing 1).content) = .ok store ∧
        ((WatchTask.start store "list.json" (some (listing 2)) 10000).watching.step
          .poll).table.entry (.replicate 48 2) = ⟨false, false⟩ := by
  intro listing config
  have configured : config.exclusionPath = some "list.json" := by decide +kernel
  have differ : (listing 1).fingerprint ≠ (listing 2).fingerprint := by
    simp [listing, WatchedFile.fingerprint]
  refine ⟨differ, ExclusionTable.load_written _ _ _,
    .ofTable (.ofRecords [⟨.replicate 48 1, ⟨true, false⟩⟩] 1), ?_, ?_⟩
  · rw [Config.exclusionStore, configured]
    dsimp only
    rw [ExclusionTable.load_written]
    rfl
  · rw [step_poll_of_seen (f := listing 2) rfl rfl]
    decide

end Registrar
