import Registrar.Batch
import Mathlib.Data.List.Induction

/-! What becomes of a list of requests: each identity kept once, and the list cut into chunks
without loss. -/
namespace Registrar
set_option autoImplicit false

/-! ## Keys of a table -/

namespace Table

variable {κ α : Type} [DecidableEq κ]

theorem keys_put (k : κ) (a : α) (rows : List (κ × α)) :
    (put k a rows).map Prod.fst =
      if k ∈ rows.map Prod.fst then rows.map Prod.fst else rows.map Prod.fst ++ [k] := by
  induction rows with
  | nil => rfl
  | cons row rest ih =>
    by_cases h : row.1 = k
    · simp [put, h]
    · have hk : ¬k = row.1 := fun hk => h hk.symm
      simp only [put, h, if_false, List.map_cons, ih, List.mem_cons, hk, false_or, List.cons_append]
      split <;> rfl

theorem ofList_append_singleton (rows : List (κ × α)) (row : κ × α) :
    ofList (rows ++ [row]) = (ofList rows).insert row.1 row.2 := by
  simp only [ofList, List.foldl_append, List.foldl_cons, List.foldl_nil]

theorem mem_put {k : κ} {a : α} {rows : List (κ × α)} {row : κ × α} (h : row ∈ put k a rows) :
    row = (k, a) ∨ row ∈ rows := by
  induction rows with
  | nil => exact .inl (List.mem_singleton.1 h)
  | cons first rest ih =>
    by_cases hk : first.1 = k
    · rw [put, if_pos hk] at h
      obtain rfl | h := List.mem_cons.1 h
      · exact .inl rfl
      · exact .inr (List.mem_cons_of_mem _ h)
    · rw [put, if_neg hk] at h
      obtain rfl | h := List.mem_cons.1 h
      · exact .inr List.mem_cons_self
      · exact (ih h).imp_right (List.mem_cons_of_mem _)

theorem mem_ofList {rows : List (κ × α)} {row : κ × α} (h : row ∈ (ofList rows).rows) :
    row ∈ rows := by
  induction rows using List.reverseRecOn with
  | nil => exact h
  | append_singleton rows last ih =>
    rw [ofList_append_singleton] at h
    obtain rfl | h := mem_put h
    · simp
    · exact List.mem_append_left _ (ih h)

theorem keys_ofList (rows : List (κ × α)) : (ofList rows).keys = (rows.map Prod.fst).eraseDups := by
  induction rows using List.reverseRecOn with
  | nil => rfl
  | append_singleton rows last ih =>
    have known (k : κ) : k ∈ (ofList rows).keys ↔ k ∈ rows.map Prod.fst := by
      rw [ih, List.mem_eraseDups]
    rw [ofList_append_singleton, List.map_append, List.eraseDups_append, ← ih]
    unfold keys at known ⊢
    rw [insert, keys_put]
    by_cases hk : last.1 ∈ rows.map Prod.fst
    · rw [if_pos ((known _).2 hk)]
      simp [List.removeAll, hk]
    · rw [if_neg (mt (known _).1 hk)]
      simp [List.removeAll, hk, List.eraseDups_cons]

theorem nodup_keys_ofList (rows : List (κ × α)) : (ofList rows).keys.Nodup := by
  induction rows using List.reverseRecOn with
  | nil => exact List.nodup_nil
  | append_singleton rows last ih =>
    rw [ofList_append_singleton]
    unfold keys at ih ⊢
    rw [insert, keys_put]
    by_cases hk : last.1 ∈ (ofList rows).rows.map Prod.fst
    · rwa [if_pos hk]
    · rw [if_neg hk]
      refine List.nodup_append.2 ⟨ih, List.pairwise_singleton _ _, fun k h last' hlast => ?_⟩
      rw [List.mem_singleton.1 hlast]
      exact fun same => hk (same ▸ h)

/-- Rows that are left out by their keys may be left out before the rest is put in. -/
theorem filter_put (p : κ → Bool) (k : κ) (a : α) (rows : List (κ × α)) :
    (put k a rows).filter (fun row => p row.1) =
      if p k then put k a (rows.filter fun row => p row.1)
      else rows.filter fun row => p row.1 := by
  induction rows with
  | nil => rw [put, List.filter_cons]; rfl
  | cons row rest ih =>
    by_cases hk : row.1 = k
    · subst hk
      rw [put, if_pos rfl, List.filter_cons, List.filter_cons]
      dsimp only
      split
      · rw [put, if_pos rfl]
      · rfl
    · rw [put, if_neg hk, List.filter_cons, List.filter_cons, ih]
      cases p row.1 with
      | false => rfl
      | true =>
        rw [if_pos rfl, if_pos rfl, put, if_neg hk]
        split <;> rfl

theorem filter_ofList (p : κ → Bool) (rows : List (κ × α)) :
    (ofList rows).rows.filter (fun row => p row.1) =
      (ofList (rows.filter fun row => p row.1)).rows := by
  induction rows using List.reverseRecOn with
  | nil => rfl
  | append_singleton rows last ih =>
    rw [ofList_append_singleton, insert, filter_put, ih, List.filter_append, List.filter_cons]
    cases p last.1 with
    | false => exact congrArg (fun rows => (ofList rows).rows) (List.append_nil _).symm
    | true => exact congrArg Table.rows (ofList_append_singleton _ last).symm

end Table

/-! ## One item for each identity -/

section

variable {κ α : Type} [DecidableEq κ] (identity : α → κ) (items : List α)

theorem identity_of_mem_ofList {row : κ × α}
    (h : row ∈ (Table.ofList (items.map fun item => (identity item, item))).rows) :
    identity row.2 = row.1 := by
  obtain ⟨item, -, rfl⟩ := List.mem_map.1 (Table.mem_ofList h)
  rfl

theorem map_dedup : (dedup identity items).map identity = (items.map identity).eraseDups := by
  calc (dedup identity items).map identity
      = (Table.ofList (items.map fun item => (identity item, item))).keys := by
        rw [dedup, Table.values, Table.keys, List.map_map]
        exact List.map_congr_left fun row => identity_of_mem_ofList identity items
    _ = (items.map identity).eraseDups := by
        rw [Table.keys_ofList, List.map_map]
        rfl

/-- Identities that are left out may be left out before repetitions are. -/
theorem filter_dedup (p : κ → Bool) :
    (dedup identity items).filter (fun item => p (identity item)) =
      dedup identity (items.filter fun item => p (identity item)) := by
  rw [dedup, Table.values, List.filter_map, dedup, Table.values]
  have rows : (Table.ofList (items.map fun item => (identity item, item))).rows.filter
      ((fun item => p (identity item)) ∘ Prod.snd) =
      (Table.ofList (items.map fun item => (identity item, item))).rows.filter
        fun row => p row.1 :=
    List.filter_congr fun row hrow =>
      congrArg p (identity_of_mem_ofList identity items hrow)
  rw [rows, Table.filter_ofList, List.filter_map]
  rfl

/-- Of items with one identity, the last one stays. -/
theorem dedup_of_identity {k : κ} {items : List α} (h : ∀ item ∈ items, identity item = k) :
    dedup identity items = items.getLast?.toList := by
  have rows : (Table.ofList (items.map fun item => (identity item, item))).rows =
      items.getLast?.toList.map fun item => (k, item) := by
    induction items using List.reverseRecOn with
    | nil => rfl
    | append_singleton before item ih =>
      obtain ⟨others, last⟩ := List.forall_mem_append.1 h
      have key : identity item = k := last item (List.mem_singleton_self item)
      rw [List.map_append, List.map_singleton, Table.ofList_append_singleton, Table.insert,
        ih others, List.getLast?_concat, key]
      cases before.getLast? with
      | none => rfl
      | some previous => exact if_pos rfl
  rw [dedup, Table.values, rows, List.map_map]
  exact List.map_id _

/-- What stays of an identity is the last of its items. -/
theorem getLast?_of_mem_dedup {item : α} (h : item ∈ dedup identity items) :
    (items.filter fun other => identity other = identity item).getLast? = some item := by
  have kept : item ∈ (dedup identity items).filter fun other => identity other = identity item :=
    List.mem_filter.2 ⟨h, decide_eq_true rfl⟩
  rw [filter_dedup identity items (fun k => k = identity item)] at kept
  have same : ∀ other ∈ items.filter (fun other => identity other = identity item),
      identity other = identity item :=
    fun other hother => of_decide_eq_true (List.mem_filter.1 hother).2
  rw [dedup_of_identity identity same] at kept
  exact Option.mem_toList.1 kept

theorem nodup_eraseDups (keys : List κ) : keys.eraseDups.Nodup := by
  have nodup := Table.nodup_keys_ofList (keys.map fun k => (k, ()))
  rw [Table.keys_ofList, List.map_map] at nodup
  simpa [Function.comp_def] using nodup

end

/-! ## Chunks -/

theorem IndexRange.slice_ofStart {α : Type} (items : List α) (i width : Nat) :
    (IndexRange.mk (i * width) (Nat.min (i * width + width) items.length)).slice items =
      (items.drop (i * width)).take width := by
  have stop : Nat.min (i * width + width) items.length = min (i * width + width) items.length := rfl
  rw [slice, length, List.take_eq_take_iff, List.length_drop, stop]
  dsimp only
  omega

theorem flatten_slices {α : Type} (items : List α) (width n : Nat) :
    ((List.range n).map fun i => (items.drop (i * width)).take width).flatten =
      items.take (n * width) := by
  induction n with
  | zero => simp
  | succ n ih =>
    rw [List.range_succ, List.map_append, List.flatten_append, ih, Nat.succ_mul, List.take_add]
    simp

theorem chunkRanges_zero (size : Nat) : chunkRanges 0 size = [] := by
  have width_pos : 0 < Nat.max size 1 := Nat.le_max_right size 1
  unfold chunkRanges
  dsimp only
  rw [Nat.div_eq_of_lt (by omega)]
  rfl

theorem flatten_chunks {α : Type} (items : List α) (size : Nat) :
    ((chunkRanges items.length size).map (·.slice items)).flatten = items := by
  unfold chunkRanges
  generalize hwidth : Nat.max size 1 = width
  have width_pos : 0 < width := by
    rw [← hwidth]
    exact Nat.le_max_right size 1
  have covered : items.length ≤ (items.length + width - 1) / width * width := by
    have division := Nat.div_add_mod' (items.length + width - 1) width
    have remainder := Nat.mod_lt (items.length + width - 1) width_pos
    omega
  simp only [List.map_map, Function.comp_def, IndexRange.slice_ofStart]
  rw [flatten_slices, List.take_of_length_le covered]

end Registrar
