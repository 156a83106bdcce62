import Registrar.Proofs.Reading
import Mathlib.Data.List.Nodup
import Mathlib.Data.List.Perm.Basic

/-! One item for each identity, told by what stays and where it stands. The last item of each identity
stays, in the order in which the identities first came, and no other list is told so; a list that is
filled in one pass, with the position of each identity taken down, comes out the same. -/
namespace Registrar
set_option autoImplicit false

section

variable {κ α : Type} {identity : α → κ} {items out : List α} {kept other : α}

/-! ## What stays -/

/-- Behind the item comes no other one with its identity. -/
def IsLast (identity : α → κ) (items : List α) (kept : α) : Prop :=
  ∃ before after, items = before ++ kept :: after ∧ ∀ other ∈ after, identity other ≠ identity kept

theorem IsLast.mem (h : IsLast identity items kept) : kept ∈ items := by
  obtain ⟨before, after, rfl, -⟩ := h
  simp

variable [DecidableEq κ]

theorem isLast_iff : IsLast identity items kept ↔
    (items.filter fun other => identity other = identity kept).getLast? = some kept := by
  rw [List.getLast?_filter, List.find?_eq_some_iff_append]
  constructor
  · rintro ⟨before, after, rfl, others⟩
    refine ⟨decide_eq_true rfl, after.reverse, before.reverse, by simp, ?_⟩
    simpa using others
  · rintro ⟨-, after, before, reversed, others⟩
    refine ⟨before.reverse, after.reverse, ?_, ?_⟩
    · rw [← List.reverse_reverse items, reversed]
      simp
    · simpa using others

theorem IsLast.unique (h : IsLast identity items kept) (h' : IsLast identity items other)
    (same : identity kept = identity other) : kept = other := by
  rw [isLast_iff, same] at h
  exact Option.some.inj (h.symm.trans (isLast_iff.1 h'))

/-- For each identity of the items one of them is kept, the last one that has it; and what is kept stands
in the order in which the identities first came. -/
structure KeepsLast (identity : α → κ) (items out : List α) : Prop where
  once : ∀ k ∈ items.map identity, (out.map identity).count k = 1
  last : ∀ kept ∈ out, IsLast identity items kept
  ordered : out.Pairwise fun first second =>
    (items.map identity).idxOf (identity first) < (items.map identity).idxOf (identity second)

namespace KeepsLast

theorem mem_iff (h : KeepsLast identity items out) : kept ∈ out ↔ IsLast identity items kept := by
  refine ⟨h.last kept, ?_⟩
  intro last
  have counted := h.once (identity kept) (List.mem_map_of_mem last.mem)
  have present : identity kept ∈ out.map identity := List.count_pos_iff.1 (by omega)
  obtain ⟨other, hother, same⟩ := List.mem_map.1 present
  rwa [last.unique (h.last other hother) same.symm]

theorem nodup (h : KeepsLast identity items out) : out.Nodup := by
  refine h.ordered.imp ?_
  rintro first _ before rfl
  exact Nat.lt_irrefl _ before

theorem unique {out' : List α} (h : KeepsLast identity items out)
    (h' : KeepsLast identity items out') : out = out' := by
  have members : out.Perm out' := by
    rw [List.perm_ext_iff_of_nodup h.nodup h'.nodup]
    intro kept
    rw [h.mem_iff, h'.mem_iff]
  refine List.Perm.eq_of_pairwise ?_ h.ordered h'.ordered members
  intro first second _ _ before behind
  exact absurd behind (Nat.lt_asymm before)

end KeepsLast

/-- Without repetitions, keys stand in the order in which they first came. -/
theorem pairwise_idxOf_eraseDups (keys : List κ) :
    keys.eraseDups.Pairwise fun k k' => keys.idxOf k < keys.idxOf k' := by
  induction keys using List.reverseRecOn with
  | nil => exact List.Pairwise.nil
  | append_singleton keys last ih =>
    have before : keys.eraseDups.Pairwise fun k k' =>
        (keys ++ [last]).idxOf k < (keys ++ [last]).idxOf k' := by
      refine ih.imp_of_mem ?_
      intro k k' hk hk' less
      rwa [List.idxOf_append_of_mem (List.mem_eraseDups.1 hk),
        List.idxOf_append_of_mem (List.mem_eraseDups.1 hk')]
    rw [List.eraseDups_append]
    by_cases known : last ∈ keys
    · simpa [List.removeAll, known] using before
    · have new : ([last].removeAll keys).eraseDups = [last] := by
        simp [List.removeAll, known, List.eraseDups_cons]
      rw [new]
      refine List.pairwise_append.2 ⟨before, List.pairwise_singleton _ _, ?_⟩
      intro k hk k' hk'
      have inside := List.mem_eraseDups.1 hk
      rw [List.mem_singleton.1 hk', List.idxOf_append_of_mem inside, List.idxOf_append, if_neg known]
      exact Nat.lt_add_left _ (List.idxOf_lt_length_of_mem inside)

theorem keepsLast_dedup (identity : α → κ) (items : List α) :
    KeepsLast identity items (dedup identity items) where
  once := by
    intro k hk
    rw [map_dedup]
    exact List.count_eq_one_of_mem (nodup_eraseDups _) (List.mem_eraseDups.2 hk)
  last := fun _ hkept => isLast_iff.2 (getLast?_of_mem_dedup identity items hkept)
  ordered := by
    have keys := pairwise_idxOf_eraseDups (items.map identity)
    rwa [← map_dedup, List.pairwise_map] at keys

/-! ## Laws -/

namespace Table

variable {k : κ} {a : α} {rows : List (κ × α)}

theorem put_of_not_mem (h : k ∉ rows.map Prod.fst) : put k a rows = rows ++ [(k, a)] := by
  induction rows with
  | nil => rfl
  | cons row rest ih =>
    rw [List.map_cons, List.mem_cons, not_or] at h
    rw [put, if_neg (Ne.symm h.1), ih h.2, List.cons_append]

/-- Rows whose keys are distinct are all there in the end, in their order. -/
theorem rows_ofList (nodup : (rows.map Prod.fst).Nodup) : (ofList rows).rows = rows := by
  induction rows using List.reverseRecOn with
  | nil => rfl
  | append_singleton rows last ih =>
    rw [List.map_append, List.map_singleton, List.nodup_append] at nodup
    obtain ⟨others, -, apart⟩ := nodup
    have new : last.1 ∉ rows.map Prod.fst :=
      fun known => apart _ known _ (List.mem_singleton_self _) rfl
    rw [ofList_append_singleton, insert, ih others, put_of_not_mem new]

theorem ofList_append (rows more : List (κ × α)) :
    ofList (rows ++ more) = more.foldl (fun t row => t.insert row.1 row.2) (ofList rows) :=
  List.foldl_append

theorem values_put (k : κ) (a : α) (rows : List (κ × α)) :
    (put k a rows).map Prod.snd =
      match (rows.map Prod.fst).idxOf? k with
      | some i => (rows.map Prod.snd).set i a
      | none => rows.map Prod.snd ++ [a] := by
  induction rows with
  | nil => rfl
  | cons row rest ih =>
    rw [List.map_cons, List.idxOf?_cons]
    by_cases same : row.1 = k
    · rw [put, if_pos same, if_pos (beq_iff_eq.2 same)]
      rfl
    · rw [put, if_neg same, if_neg (mt beq_iff_eq.1 same), List.map_cons, ih]
      cases (rest.map Prod.fst).idxOf? k with
      | none => rfl
      | some i => rfl

end Table

theorem rows_dedup (identity : α → κ) (items : List α) :
    (dedup identity items).map (fun item => (identity item, item)) =
      (Table.ofList (items.map fun item => (identity item, item))).rows := by
  have same : ∀ row ∈ (Table.ofList (items.map fun item => (identity item, item))).rows,
      (identity row.2, row.2) = row := by
    intro row hrow
    rw [identity_of_mem_ofList identity items hrow]
  rw [dedup, Table.values, List.map_map]
  exact (List.map_congr_left same).trans (List.map_id _)

theorem dedup_of_nodup (nodup : (items.map identity).Nodup) : dedup identity items = items := by
  have rows : (Table.ofList (items.map fun item => (identity item, item))).rows =
      items.map fun item => (identity item, item) := by
    refine Table.rows_ofList ?_
    rwa [List.map_map]
  rw [dedup, Table.values, rows, List.map_map]
  exact List.map_id _

theorem nodup_map_dedup (identity : α → κ) (items : List α) :
    ((dedup identity items).map identity).Nodup := by
  rw [map_dedup]
  exact nodup_eraseDups _

theorem dedup_dedup_append (identity : α → κ) (front back : List α) :
    dedup identity (dedup identity front ++ back) = dedup identity (front ++ back) := by
  have again : Table.ofList ((dedup identity front).map fun item => (identity item, item)) =
      Table.ofList (front.map fun item => (identity item, item)) := by
    rw [rows_dedup]
    exact congrArg Table.mk (Table.rows_ofList (Table.nodup_keys_ofList _))
  rw [dedup, List.map_append, Table.ofList_append, again, ← Table.ofList_append, ← List.map_append]
  rfl

theorem dedup_concat (identity : α → κ) (items : List α) (item : α) :
    dedup identity (items ++ [item]) =
      match ((dedup identity items).map identity).idxOf? (identity item) with
      | some i => (dedup identity items).set i item
      | none => dedup identity items ++ [item] := by
  have keys : (dedup identity items).map identity =
      (Table.ofList (items.map fun item => (identity item, item))).rows.map Prod.fst := by
    rw [← rows_dedup, List.map_map]
    rfl
  rw [keys, dedup, List.map_append, List.map_singleton, Table.ofList_append_singleton, Table.values,
    Table.insert, Table.values_put]
  rfl

/-! ## In one pass -/

theorem idxOf?_concat (keys : List κ) (k k' : κ) :
    (keys ++ [k]).idxOf? k' =
      (keys.idxOf? k').or (if k = k' then some keys.length else none) := by
  unfold List.idxOf?
  rw [List.findIdx?_append]
  by_cases same : k = k'
  · simp [same]
  · simp [same]

/-- What is kept so far, and where among it each identity stands. -/
structure Keeping (κ α : Type) where
  position : Table κ Nat
  out : List α

namespace Keeping

/-- An item goes to the position of its identity, or behind all others when it has none. To write
behind the end would be a fault. -/
def take? (identity : α → κ) (s : Keeping κ α) (item : α) : Option (Keeping κ α) :=
  match s.position.get? (identity item) with
  | some i => if i < s.out.length then some { s with out := s.out.set i item } else none
  | none => some ⟨s.position.insert (identity item) s.out.length, s.out ++ [item]⟩

def takeAll? (identity : α → κ) (items : List α) : Option (Keeping κ α) :=
  items.foldlM (take? identity) ⟨.empty, []⟩

/-- The positions are those of the identities in what is kept, and that is what is kept of the items. -/
structure Holds (identity : α → κ) (items : List α) (s : Keeping κ α) : Prop where
  position : ∀ k, s.position.get? k = (s.out.map identity).idxOf? k
  out : s.out = dedup identity items

theorem Holds.take {s : Keeping κ α} (h : s.Holds identity items) (item : α) :
    ∃ s', s.take? identity item = some s' ∧ s'.Holds identity (items ++ [item]) := by
  have next := dedup_concat identity items item
  rw [← h.out] at next
  unfold take?
  rw [h.position]
  cases known : (s.out.map identity).idxOf? (identity item) with
  | none =>
    rw [known] at next
    refine ⟨_, rfl, ?_, next.symm⟩
    intro k
    rw [Table.get?_insert, List.map_append, List.map_singleton, idxOf?_concat, h.position]
    -- Only the new identity has a position that it did not have, and that is where the item goes.
    by_cases same : identity item = k
    · rw [if_pos same, if_pos same, ← same, known, List.length_map]
      rfl
    · rw [if_neg same, if_neg same, Option.or_none]
  | some i =>
    rw [known] at next
    obtain ⟨inside, same, -⟩ := List.idxOf?_eq_some_iff.1 known
    -- The item that is overwritten has the same identity, so every position stays right.
    have kept : (s.out.set i item).map identity = s.out.map identity := by
      rw [List.map_set, ← same, List.set_getElem_self]
    rw [List.length_map] at inside
    refine ⟨_, if_pos inside, ?_, next.symm⟩
    intro k
    rw [h.position, kept]

/-- The pass meets no fault. -/
theorem holds_takeAll (identity : α → κ) (items : List α) :
    ∃ s, takeAll? identity items = some s ∧ s.Holds identity items := by
  induction items using List.reverseRecOn with
  | nil => exact ⟨_, rfl, fun _ => rfl, rfl⟩
  | append_singleton items item ih =>
    obtain ⟨s, ran, holds⟩ := ih
    obtain ⟨s', taken, holds'⟩ := holds.take item
    refine ⟨s', ?_, holds'⟩
    unfold takeAll? at ran ⊢
    rw [List.foldlM_append, ran]
    change (take? identity s item).bind some = some s'
    rw [taken]
    rfl

end Keeping

/-! ## The whole -/

/-- The pass that takes down positions meets no fault and gives the list without repetitions. That list
is the only one that keeps, for each identity, the last item that has it, in the order in which the
identities first came. So a list without repetitions stays as it is, a second time changes nothing, and
repetitions may be left out of the front of a list before the rest is put behind it. -/
theorem dedup_exact (identity : α → κ) :
    (∀ items, (Keeping.takeAll? identity items).map Keeping.out = some (dedup identity items)) ∧
      (∀ items out, dedup identity items = out ↔ KeepsLast identity items out) ∧
      (∀ items, (items.map identity).Nodup → dedup identity items = items) ∧
      (∀ items, dedup identity (dedup identity items) = dedup identity items) ∧
      ∀ front back,
        dedup identity (front ++ back) = dedup identity (dedup identity front ++ back) := by
  refine ⟨?pass, ?only, fun _ => dedup_of_nodup, ?again, ?front⟩
  case pass =>
    intro items
    obtain ⟨s, ran, holds⟩ := Keeping.holds_takeAll identity items
    rw [ran, Option.map_some, holds.out]
  case only =>
    intro items out
    constructor
    · rintro rfl
      exact keepsLast_dedup identity items
    · exact (keepsLast_dedup identity items).unique
  case again =>
    intro items
    exact dedup_of_nodup (nodup_map_dedup identity items)
  case front =>
    intro front back
    exact (dedup_dedup_append identity front back).symm

end

/-- Three numbers under two keys: the third one takes the place of the first. -/
theorem dedup_exact_three :
    let a : PublicKey := .replicate 48 1
    let b : PublicKey := .replicate 48 2
    KeepsLast Prod.fst [(a, 1), (b, 2), (a, 3)] [(a, 3), (b, 2)] ∧
      ([(a, 3), (b, 2)].map Prod.fst).Nodup ∧
      dedup Prod.fst [(a, 3), (b, 2)] = [(a, 3), (b, 2)] := by
  intro a b
  obtain ⟨-, only, unrepeated, -⟩ := dedup_exact (Prod.fst : PublicKey × Nat → PublicKey)
  have distinct : ([(a, 3), (b, 2)].map Prod.fst).Nodup := by decide
  exact ⟨(only _ _).1 (by decide), distinct, unrepeated _ distinct⟩

end Registrar
