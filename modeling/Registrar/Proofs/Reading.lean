import Registrar.Engine.StatusReader
import Registrar.Proofs.Batching
import Registrar.Proofs.Pool

/-! Readings of an authority: which aggregates they ask for and how many, when they fail, and that
whatever they tell of an identity is what the node answered for that identity. -/
namespace Registrar
set_option autoImplicit false

open Program Contract

/-! ## Values of a table -/

namespace Table

variable {κ α β : Type} [DecidableEq κ]

@[simp] theorem get?_empty (k : κ) : (empty : Table κ α).get? k = none := rfl

theorem get?_insert (t : Table κ α) (k k' : κ) (a : α) :
    (t.insert k a).get? k' = if k = k' then some a else t.get? k' := by
  obtain ⟨rows⟩ := t
  simp only [get?, insert]
  induction rows with
  | nil => by_cases h : k = k' <;> simp [put, h]
  | cons row rest ih =>
    by_cases hr : row.1 = k
    · subst hr
      by_cases h : row.1 = k' <;> simp [put, h]
    · by_cases h' : row.1 = k'
      · subst h'
        have hk : k ≠ row.1 := fun same => hr same.symm
        simp [put, hr, hk]
      · simp [put, hr, h', ih]

/-- After rows are inserted one by one, a key has the value of one of its rows, or the value from
before when there is no such row. -/
theorem get?_foldl_insert (value : β → α) (rows : List (κ × β)) (t : Table κ α) (k : κ) :
    (k ∉ rows.map Prod.fst ∧
        (rows.foldl (fun t row => t.insert row.1 (value row.2)) t).get? k = t.get? k) ∨
      ∃ b, (k, b) ∈ rows ∧
        (rows.foldl (fun t row => t.insert row.1 (value row.2)) t).get? k = some (value b) := by
  induction rows generalizing t with
  | nil => exact .inl ⟨List.not_mem_nil, rfl⟩
  | cons row rest ih =>
    obtain ⟨absent, before⟩ | ⟨b, hb, told⟩ := ih (t.insert row.1 (value row.2))
    · rw [List.foldl_cons, before, get?_insert]
      by_cases h : row.1 = k
      · refine .inr ⟨row.2, ?_, by rw [if_pos h]⟩
        rw [← h]
        exact List.mem_cons_self
      · have hk : k ∉ (row :: rest).map Prod.fst := by
          simp only [List.map_cons, List.mem_cons, not_or]
          exact ⟨fun same => h same.symm, absent⟩
        exact .inl ⟨hk, by rw [if_neg h]⟩
    · exact .inr ⟨b, List.mem_cons_of_mem _ hb, told⟩

end Table

/-! ## Ranges of a list -/

namespace IndexRange

variable {α : Type} {r : IndexRange} {items : List α}

/-- The range is not empty and ends within a list of this length. -/
def Fits (r : IndexRange) (length : Nat) : Prop :=
  r.start < r.stop ∧ r.stop ≤ length

theorem Fits.length_pos {length : Nat} (h : r.Fits length) : 0 < r.length := by
  unfold IndexRange.length
  have := h.1
  omega

theorem Fits.length_slice (h : r.Fits items.length) : (r.slice items).length = r.length := by
  have inside := h.2
  simp only [slice, List.length_take, List.length_drop]
  unfold IndexRange.length
  omega

theorem Fits.slice_ne_nil (h : r.Fits items.length) : r.slice items ≠ [] := by
  have pos := h.length_pos
  rw [← h.length_slice] at pos
  exact List.ne_nil_of_length_pos pos

theorem slice_isInfix (r : IndexRange) (items : List α) : r.slice items <:+: items :=
  (List.take_prefix ..).isInfix.trans (List.drop_suffix ..).isInfix

theorem halves?_eq_none : r.halves? = none ↔ r.length ≤ 1 := by
  unfold halves?
  split <;> simp [*]

theorem halves?_eq_some {lower upper : IndexRange} (h : r.halves? = some (lower, upper)) :
    1 < r.length ∧ lower = ⟨r.start, r.start + r.length / 2⟩ ∧
      upper = ⟨r.start + r.length / 2, r.stop⟩ := by
  unfold halves? at h
  split at h
  · cases h
  · rename_i wide
    cases h
    exact ⟨Nat.lt_of_not_le wide, rfl, rfl⟩

theorem slice_halves {lower upper : IndexRange} (h : r.halves? = some (lower, upper)) :
    r.slice items = lower.slice items ++ upper.slice items := by
  obtain ⟨wide, rfl, rfl⟩ := halves?_eq_some h
  simp only [slice, IndexRange.length] at wide ⊢
  have first : r.start + (r.stop - r.start) / 2 - r.start = (r.stop - r.start) / 2 := by omega
  have whole : r.stop - r.start =
      (r.stop - r.start) / 2 + (r.stop - (r.start + (r.stop - r.start) / 2)) := by omega
  rw [first, ← List.drop_drop, ← List.take_add, ← whole]

theorem Fits.halves {length : Nat} {lower upper : IndexRange} (fits : r.Fits length)
    (h : r.halves? = some (lower, upper)) : lower.Fits length ∧ upper.Fits length := by
  obtain ⟨wide, rfl, rfl⟩ := halves?_eq_some h
  simp only [Fits, IndexRange.length] at fits wide ⊢
  omega

end IndexRange

theorem fits_of_mem_chunkRanges {length size : Nat} {r : IndexRange}
    (h : r ∈ chunkRanges length size) : r.Fits length := by
  unfold chunkRanges at h
  obtain ⟨i, hi, rfl⟩ := List.mem_map.1 h
  have width_pos : 0 < Nat.max size 1 := Nat.le_max_right size 1
  generalize Nat.max size 1 = width at hi width_pos ⊢
  have below : i * width + width ≤ length + width - 1 := by
    have := Nat.mul_le_of_le_div _ _ _ (Nat.succ_le_of_lt (List.mem_range.1 hi))
    rwa [Nat.succ_mul] at this
  have start : i * width < length := by omega
  have stop : i * width < i * width + width := by omega
  exact ⟨Nat.lt_min.2 ⟨stop, start⟩, Nat.min_le_right ..⟩

theorem length_chunkRanges (length size : Nat) :
    (chunkRanges length size).length = (length + Nat.max size 1 - 1) / Nat.max size 1 := by
  simp [chunkRanges]

namespace RangeQueue

theorem weight_cons (r : IndexRange) (rest : List IndexRange) :
    weight ⟨r :: rest⟩ = rangeWeight r + weight ⟨rest⟩ := rfl

/-- A range of `n` indices can lead to `2 * n - 1` reads. -/
theorem weight_add_length {α : Type} (items : List α) (pending : List IndexRange)
    (fits : ∀ r ∈ pending, r.Fits items.length) :
    weight ⟨pending⟩ + pending.length = 2 * (pending.map (·.slice items)).flatten.length := by
  induction pending with
  | nil => rfl
  | cons r rest ih =>
    have first := fits r List.mem_cons_self
    have pos := first.length_pos
    have others := ih fun r hr => fits r (List.mem_cons_of_mem _ hr)
    have reads : rangeWeight r + 1 = 2 * r.length := by
      simp only [rangeWeight, Nat.max_def]
      split <;> omega
    rw [weight_cons, List.map_cons, List.flatten_cons, List.length_append, first.length_slice,
      List.length_cons]
    omega

theorem weight_ofLength {α : Type} (items : List α) (size : Nat) :
    (ofLength items.length size).weight +
      (items.length + Nat.max size 1 - 1) / Nat.max size 1 = 2 * items.length := by
  have reads := weight_add_length items (chunkRanges items.length size) fun r hr =>
    fits_of_mem_chunkRanges hr
  rwa [flatten_chunks, length_chunkRanges] at reads

end RangeQueue

/-! ## One aggregate -/

/-- The lookup of one identity at the authority's contract. -/
def lookupCall (target : Address) (authority : Authority) (k : PublicKey) : Multicall.Call :=
  ⟨target, true, encodeStatusLookup authority k⟩

/-- One aggregate of a reading: the identities that it asks for, and what the node answers. -/
structure AggregateRead where
  keys : List PublicKey
  answer : Except Error Bytes

namespace AggregateRead

def exchange (multicall target : Address) (authority : Authority) (read : AggregateRead) :
    Exchange :=
  ⟨.node (.call multicall (Multicall.encode (read.keys.map (lookupCall target authority)))),
    read.answer⟩

/-- The answers to the lookups, one for each identity. -/
def outcome (read : AggregateRead) : Except Error (List Multicall.Answer) :=
  match read.answer with
  | .error e => .error e
  | .ok raw =>
    match Multicall.decodeAnswers? raw with
    | none => .error (.abi "aggregate3 decode" "malformed answers")
    | some answers =>
      if answers.length = read.keys.length then .ok answers
      else .error (.abi "aggregate3 decode"
        ("expected " ++ toString read.keys.length ++ " results, got " ++ toString answers.length))

/-- The aggregate fails with an error other than a size limit, or asks for one identity and fails. -/
def Fails (read : AggregateRead) : Prop :=
  ∃ e, read.outcome = .error e ∧ (e.isSizeLimit = false ∨ read.keys.length = 1)

/-- The node refuses the aggregate for its size, or answers each lookup as `f` does. -/
def Pointwise (target : Address) (authority : Authority) (f : Multicall.Call → Multicall.Answer)
    (read : AggregateRead) : Prop :=
  (∃ e, read.answer = .error e ∧ e.isSizeLimit = true) ∨
    ∃ raw, read.answer = .ok raw ∧
      Multicall.decodeAnswers? raw = some (read.keys.map fun k => f (lookupCall target authority k))

/-- The status told of the identity is the one that its own answer stands for. -/
def Tells (authority : Authority) (read : AggregateRead) (k : PublicKey)
    (status : AuthorityStatus) : Prop :=
  ∃ answers answer, read.outcome = .ok answers ∧ (k, answer) ∈ read.keys.zip answers ∧
    status = statusOfAnswer authority answer

variable {read : AggregateRead}

theorem length_of_outcome {answers : List Multicall.Answer} (h : read.outcome = .ok answers) :
    answers.length = read.keys.length := by
  unfold outcome at h
  split at h
  · cases h
  split at h
  · cases h
  split at h
  · rename_i lengths
    cases h
    exact lengths
  · cases h

theorem Tells.mem_keys {authority : Authority} {k : PublicKey} {status : AuthorityStatus}
    (h : read.Tells authority k status) : k ∈ read.keys := by
  obtain ⟨answers, answer, -, hk, -⟩ := h
  exact (List.of_mem_zip hk).1

section

variable {target : Address} {authority : Authority} {f : Multicall.Call → Multicall.Answer}

theorem Pointwise.outcome_cases (h : read.Pointwise target authority f) :
    (∃ e, read.answer = .error e ∧ read.outcome = .error e ∧ e.isSizeLimit = true) ∨
      read.outcome = .ok (read.keys.map fun k => f (lookupCall target authority k)) := by
  obtain ⟨e, refused, large⟩ | ⟨raw, answered, decoded⟩ := h
  · exact .inl ⟨e, refused, by rw [outcome, refused], large⟩
  · right
    simp [outcome, answered, decoded]

theorem Pointwise.not_fails (h : read.Pointwise target authority f)
    (answered : read.keys.length = 1 → ∃ raw, read.answer = .ok raw) : ¬read.Fails := by
  rintro ⟨e, failed, final⟩
  obtain ⟨e', refused, refused', large⟩ | told := h.outcome_cases
  · cases failed.symm.trans refused'
    obtain limit | single := final
    · cases large.symm.trans limit
    · obtain ⟨raw, ok⟩ := answered single
      cases refused.symm.trans ok
  · cases failed.symm.trans told

/-- What is told of an identity is the answer to its own lookup. -/
theorem Pointwise.status_eq (h : read.Pointwise target authority f) {k : PublicKey}
    {status : AuthorityStatus} (tells : read.Tells authority k status) :
    status = statusOfAnswer authority (f (lookupCall target authority k)) := by
  obtain ⟨answers, answer, told, hk, rfl⟩ := tells
  obtain ⟨e, -, refused, -⟩ | told' := h.outcome_cases
  · cases told.symm.trans refused
  · cases told.symm.trans told'
    rw [← List.map_prod_left_eq_zip] at hk
    obtain ⟨k', -, same⟩ := List.mem_map.1 hk
    cases same
    rfl

end

end AggregateRead

theorem Gateway.aggregate_yields {g : Gateway} {target : Address} {authority : Authority}
    {keys : List PublicKey} {t : List Exchange} {r : Except Error (List Multicall.Answer)}
    (h : (g.aggregate (keys.map (lookupCall target authority))).Yields t r) :
    ∃ answer, t = [AggregateRead.exchange g.settings.multicall target authority ⟨keys, answer⟩] ∧
      r = AggregateRead.outcome ⟨keys, answer⟩ := by
  obtain ⟨answer, t, rfl, h⟩ := h
  refine ⟨answer, ?_⟩
  unfold AggregateRead.outcome
  cases answer with
  | error e =>
    obtain ⟨rfl, rfl⟩ := h
    exact ⟨rfl, rfl⟩
  | ok raw =>
  simp only [Program.bind, List.length_map] at h
  dsimp only
  cases decoded : Multicall.decodeAnswers? raw with
  | none =>
    rw [decoded] at h
    obtain ⟨rfl, rfl⟩ := h
    exact ⟨rfl, rfl⟩
  | some answers =>
  rw [decoded] at h
  dsimp only at h ⊢
  by_cases lengths : answers.length = keys.length
  · rw [if_pos lengths] at h ⊢
    obtain ⟨rfl, rfl⟩ := h
    exact ⟨rfl, rfl⟩
  · rw [if_neg lengths] at h ⊢
    obtain ⟨rfl, rfl⟩ := h
    exact ⟨rfl, rfl⟩

namespace StatusReader

variable {reader : StatusReader} {target : Address} {authority : Authority}
  {identities : List PublicKey}

/-! ## The course of a reading -/

/-- The aggregates that a queue of ranges leads to, and how the reading then ends. -/
inductive Serving (authority : Authority) (identities : List PublicKey) :
    RangeQueue → StatusMap → List AggregateRead → Except Error StatusMap → Prop
  | finished (m : StatusMap) : Serving authority identities ⟨[]⟩ m [] (.ok m)
  | answered {range : IndexRange} {rest : List IndexRange} {m : StatusMap}
      {answer : Except Error Bytes} {answers : List Multicall.Answer} {reads : List AggregateRead}
      {r : Except Error StatusMap}
      (told : AggregateRead.outcome ⟨range.slice identities, answer⟩ = .ok answers)
      (onward : Serving authority identities ⟨rest⟩
        (record authority (range.slice identities) answers m) reads r) :
    Serving authority identities ⟨range :: rest⟩ m (⟨range.slice identities, answer⟩ :: reads) r
  | halved {range lower upper : IndexRange} {rest : List IndexRange} {m : StatusMap}
      {answer : Except Error Bytes} {e : Error} {reads : List AggregateRead}
      {r : Except Error StatusMap}
      (failed : AggregateRead.outcome ⟨range.slice identities, answer⟩ = .error e)
      (large : e.isSizeLimit = true) (halves : range.halves? = some (lower, upper))
      (onward : Serving authority identities ⟨lower :: upper :: rest⟩ m reads r) :
    Serving authority identities ⟨range :: rest⟩ m (⟨range.slice identities, answer⟩ :: reads) r
  | failed {range : IndexRange} {rest : List IndexRange} {m : StatusMap}
      {answer : Except Error Bytes} {e : Error}
      (failed : AggregateRead.outcome ⟨range.slice identities, answer⟩ = .error e)
      (final : e.isSizeLimit = false ∨ range.halves? = none) :
    Serving authority identities ⟨range :: rest⟩ m [⟨range.slice identities, answer⟩]
      (.error (.statusReadFailed authority.label e.text))

theorem serve_yields {q : RangeQueue} {m : StatusMap} {t : List Exchange}
    {r : Except Error StatusMap}
    (h : (reader.serve target authority identities q m).Yields t r) :
    ∃ reads : List AggregateRead,
      t = reads.map (·.exchange reader.gateway.settings.multicall target authority) ∧
        Serving authority identities q m reads r := by
  fun_induction serve reader target authority identities q m generalizing t with
  | case1 q m hq =>
    obtain ⟨rfl, rfl⟩ := h
    obtain ⟨_ | _⟩ := q
    · exact ⟨[], rfl, .finished m⟩
    · cases hq
  | case2 q m range rest hq keys calls ihRest =>
    rename_i ihSplit
    obtain ⟨_ | ⟨first, pending⟩⟩ := q
    · cases hq
    cases hq
    obtain ⟨u, v, answer, rfl, hu, h⟩ := yields_bind.1 h
    obtain ⟨answer, rfl, rfl⟩ := Gateway.aggregate_yields hu
    cases ho : AggregateRead.outcome ⟨keys, answer⟩ with
    | ok answers =>
      rw [ho] at h
      obtain ⟨reads, rfl, serving⟩ := ihRest answers h
      exact ⟨⟨keys, answer⟩ :: reads, rfl, .answered ho serving⟩
    | error e =>
    rw [ho] at h
    dsimp only at h
    split at h
    · rename_i halved hs
      obtain ⟨reads, rfl, serving⟩ := ihSplit e halved hs h
      refine ⟨⟨keys, answer⟩ :: reads, rfl, ?_⟩
      split at hs
      · rename_i large
        obtain ⟨⟨lower, upper⟩, halves, rfl⟩ := Option.map_eq_some_iff.1 hs
        exact .halved ho large halves serving
      · cases hs
    · rename_i hs
      obtain ⟨rfl, rfl⟩ := h
      refine ⟨[⟨keys, answer⟩], rfl, .failed ho ?_⟩
      split at hs
      · exact .inr (Option.map_eq_none_iff.1 hs)
      · rename_i large
        exact .inl (by simpa using large)

theorem serve_not_stalls {q : RangeQueue} {m : StatusMap} {t : List Exchange} :
    ¬(reader.serve target authority identities q m).Stalls t := by
  have aggregate (calls : List Multicall.Call) {t : List Exchange} :
      ¬(reader.gateway.aggregate calls).Stalls t := by
    rintro ⟨answer, t, rfl, h⟩
    cases answer with
    | error e => exact h
    | ok raw =>
      simp only [Program.bind] at h
      split at h
      · exact h
      · split at h <;> exact h
  fun_induction serve reader target authority identities q m generalizing t with
  | case1 q m hq => exact id
  | case2 q m range rest hq keys calls ihRest =>
    rename_i ihSplit
    intro h
    obtain h | ⟨u, v, answer, rfl, -, h⟩ := stalls_bind.1 h
    · exact aggregate calls h
    cases answer with
    | ok answers => exact ihRest answers h
    | error e =>
      dsimp only at h
      split at h
      · rename_i halved hs
        exact ihSplit e halved hs h
      · exact h

/-! ## How many aggregates, and for whom -/

namespace Serving

variable {q : RangeQueue} {m : StatusMap} {reads : List AggregateRead}
  {r : Except Error StatusMap}

theorem length_le (h : Serving authority identities q m reads r) : reads.length ≤ q.weight := by
  induction h with
  | finished m => exact Nat.le_refl _
  | @answered range rest m answer answers reads r told onward ih =>
    have pos := RangeQueue.rangeWeight_pos range
    rw [RangeQueue.weight_cons, List.length_cons]
    omega
  | @halved range lower upper rest m answer e reads r failed large halves onward ih =>
    have less : RangeQueue.weight ⟨lower :: upper :: rest⟩ <
        RangeQueue.rangeWeight range + RangeQueue.weight ⟨rest⟩ :=
      RangeQueue.weight_split (by rw [RangeQueue.split?, halves]; rfl)
    rw [RangeQueue.weight_cons, List.length_cons]
    omega
  | @failed range rest m answer e failed final =>
    have pos := RangeQueue.rangeWeight_pos range
    rw [RangeQueue.weight_cons, List.length_singleton]
    omega

theorem keys_of_mem (h : Serving authority identities q m reads r)
    (fits : ∀ range ∈ q.pending, range.Fits identities.length) :
    ∀ read ∈ reads, read.keys <:+: identities ∧ read.keys ≠ [] := by
  induction h with
  | finished m => simp
  | @answered range rest m answer answers reads r told onward ih =>
    refine List.forall_mem_cons.2 ⟨⟨range.slice_isInfix identities, ?_⟩, ih ?_⟩
    · exact (fits range List.mem_cons_self).slice_ne_nil
    · exact fun range hr => fits range (List.mem_cons_of_mem _ hr)
  | @halved range lower upper rest m answer e reads r failed large halves onward ih =>
    have first := fits range List.mem_cons_self
    obtain ⟨low, up⟩ := first.halves halves
    refine List.forall_mem_cons.2 ⟨⟨range.slice_isInfix identities, first.slice_ne_nil⟩, ih ?_⟩
    refine List.forall_mem_cons.2 ⟨low, List.forall_mem_cons.2 ⟨up, ?_⟩⟩
    exact fun range hr => fits range (List.mem_cons_of_mem _ hr)
  | @failed range rest m answer e failed final =>
    refine List.forall_mem_singleton.2 ⟨range.slice_isInfix identities, ?_⟩
    exact (fits range List.mem_cons_self).slice_ne_nil

/-! ## When a reading fails -/

/-- A reading ends well when no aggregate fails, and otherwise with the first one that fails. -/
theorem fails_cases (h : Serving authority identities q m reads r)
    (fits : ∀ range ∈ q.pending, range.Fits identities.length) :
    (∃ m', r = .ok m' ∧ ∀ read ∈ reads, ¬read.Fails) ∨
      ∃ details, r = .error (.statusReadFailed authority.label details) ∧
        ∃ read ∈ reads, read.Fails := by
  induction h with
  | finished m => exact .inl ⟨m, rfl, by simp⟩
  | @answered range rest m answer answers reads r told onward ih =>
    have sound : ¬AggregateRead.Fails ⟨range.slice identities, answer⟩ := by
      rintro ⟨e, failed, -⟩
      cases told.symm.trans failed
    obtain ⟨m', rfl, none⟩ | ⟨details, rfl, read, hread, fails⟩ :=
      ih fun range hr => fits range (List.mem_cons_of_mem _ hr)
    · exact .inl ⟨m', rfl, List.forall_mem_cons.2 ⟨sound, none⟩⟩
    · exact .inr ⟨details, rfl, read, List.mem_cons_of_mem _ hread, fails⟩
  | @halved range lower upper rest m answer e reads r failed large halves onward ih =>
    have first := fits range List.mem_cons_self
    obtain ⟨low, up⟩ := first.halves halves
    have sound : ¬AggregateRead.Fails ⟨range.slice identities, answer⟩ := by
      rintro ⟨e', failed', final⟩
      cases failed.symm.trans failed'
      obtain limit | single := final
      · cases large.symm.trans limit
      · rw [first.length_slice] at single
        cases halves.symm.trans (IndexRange.halves?_eq_none.2 (Nat.le_of_eq single))
    have onward_fits : ∀ range ∈ lower :: upper :: rest, range.Fits identities.length :=
      List.forall_mem_cons.2 ⟨low, List.forall_mem_cons.2
        ⟨up, fun range hr => fits range (List.mem_cons_of_mem _ hr)⟩⟩
    obtain ⟨m', rfl, none⟩ | ⟨details, rfl, read, hread, fails⟩ := ih onward_fits
    · exact .inl ⟨m', rfl, List.forall_mem_cons.2 ⟨sound, none⟩⟩
    · exact .inr ⟨details, rfl, read, List.mem_cons_of_mem _ hread, fails⟩
  | @failed range rest m answer e failed final =>
    have first := fits range List.mem_cons_self
    refine .inr ⟨_, rfl, _, List.mem_cons_self, e, failed, final.imp_right fun whole => ?_⟩
    have most := IndexRange.halves?_eq_none.1 whole
    have pos := first.length_pos
    rw [first.length_slice]
    omega

/-! ## What a reading tells -/

theorem record_get? {read : AggregateRead} {answers : List Multicall.Answer}
    (told : read.outcome = .ok answers) (m : StatusMap) (k : PublicKey) :
    (k ∉ read.keys ∧ (record authority read.keys answers m).get? k = m.get? k) ∨
      k ∈ read.keys ∧ ∃ status, (record authority read.keys answers m).get? k = some status ∧
        read.Tells authority k status := by
  have lengths := AggregateRead.length_of_outcome told
  have known : (read.keys.zip answers).map Prod.fst = read.keys :=
    List.map_fst_zip (Nat.le_of_eq lengths.symm)
  obtain ⟨absent, before⟩ | ⟨answer, hk, status⟩ :=
    Table.get?_foldl_insert (statusOfAnswer authority) (read.keys.zip answers) m k
  · rw [known] at absent
    exact .inl ⟨absent, before⟩
  · exact .inr ⟨(List.of_mem_zip hk).1, _, status, answers, answer, told, hk, rfl⟩

/-- The status of every identity in the queue is told by an aggregate of the reading, and nothing is
told of any other identity. -/
theorem get?_cases (h : Serving authority identities q m reads r) {m' : StatusMap}
    (ended : r = .ok m') (k : PublicKey) :
    (k ∉ q.pending.flatMap (·.slice identities) ∧ m'.get? k = m.get? k) ∨
      (∃ read ∈ reads, ∃ status, m'.get? k = some status ∧ read.Tells authority k status) := by
  induction h with
  | finished m =>
    cases ended
    exact .inl ⟨List.not_mem_nil, rfl⟩
  | @answered range rest m answer answers reads r told onward ih =>
    obtain ⟨absent, before⟩ | ⟨read, hread, status⟩ := ih ended
    · obtain ⟨absent', before'⟩ | ⟨-, status, now, tells⟩ := record_get? told m k
      · refine .inl ⟨?_, before.trans before'⟩
        rw [List.flatMap_cons, List.mem_append, not_or]
        exact ⟨absent', absent⟩
      · exact .inr ⟨_, List.mem_cons_self, status, before.trans now, tells⟩
    · exact .inr ⟨read, List.mem_cons_of_mem _ hread, status⟩
  | @halved range lower upper rest m answer e reads r failed large halves onward ih =>
    obtain ⟨absent, before⟩ | ⟨read, hread, status⟩ := ih ended
    · refine .inl ⟨?_, before⟩
      rw [List.flatMap_cons, IndexRange.slice_halves halves, List.append_assoc]
      exact absent
    · exact .inr ⟨read, List.mem_cons_of_mem _ hread, status⟩
  | @failed range rest m answer e failed final => cases ended

end Serving

/-! ## Whole readings -/

theorem batchStatus_yields (ht : reader.target authority = .ok target) {t : List Exchange}
    {r : Except Error StatusMap} (h : (reader.batchStatus identities authority).Yields t r) :
    ∃ reads : List AggregateRead,
      t = reads.map (·.exchange reader.gateway.settings.multicall target authority) ∧
        Serving authority identities (.ofLength identities.length reader.chunkSize) .empty reads
          r := by
  unfold batchStatus at h
  split at h
  · rename_i none
    obtain rfl := List.isEmpty_iff.1 none
    obtain ⟨rfl, rfl⟩ := h
    refine ⟨[], rfl, ?_⟩
    rw [List.length_nil, RangeQueue.ofLength, chunkRanges_zero]
    exact .finished .empty
  · rw [ht] at h
    exact serve_yields h

theorem batchStatus_not_stalls {t : List Exchange} :
    ¬(reader.batchStatus identities authority).Stalls t := by
  unfold batchStatus
  split
  · exact id
  · split
    · exact id
    · exact serve_not_stalls

/-- A reading that ends well tells the statuses of the identities that it was asked for, and each
of them is told by an aggregate. -/
theorem Serving.get?_of_whole {reads : List AggregateRead} {m : StatusMap}
    (h : Serving authority identities (.ofLength identities.length reader.chunkSize) .empty reads
      (.ok m)) (k : PublicKey) :
    (k ∉ identities ∧ m.get? k = none) ∨
      k ∈ identities ∧ ∃ read ∈ reads, ∃ status, m.get? k = some status ∧
        read.Tells authority k status := by
  have whole : ((RangeQueue.ofLength identities.length reader.chunkSize).pending.flatMap
      (·.slice identities)) = identities := by
    rw [List.flatMap_def]
    exact flatten_chunks identities reader.chunkSize
  obtain ⟨absent, none⟩ | ⟨read, hread, status, now, tells⟩ := h.get?_cases rfl k
  · rw [whole] at absent
    exact .inl ⟨absent, none⟩
  · have asked := (h.keys_of_mem fun range hr => fits_of_mem_chunkRanges hr) read hread
    exact .inr ⟨asked.1.subset tells.mem_keys, read, hread, status, now, tells⟩

/-- A reading comes to an end whatever the node answers. It asks for parts of the identities, in at
most `2 * n - ⌈n / chunkSize⌉` aggregates for `n` identities, and fails exactly when one of them
fails with an error other than a size limit or with one identity left. When the node refuses
aggregates for nothing but their size, answers every aggregate for one identity, and answers each
lookup as `f` does, then the reading ends well, with the status of each identity from its own lookup
and no other status. -/
theorem batchStatus_refines_lookups (ht : reader.target authority = .ok target)
    (identities : List PublicKey) :
    (∀ {σ : Type} (h : Surroundings σ) (s : σ),
      ∃ r s', (reader.batchStatus identities authority).run h s = (some r, s')) ∧
    ∀ (t : List Exchange) (r : Except Error StatusMap),
      (reader.batchStatus identities authority).Yields t r →
      ∃ reads : List AggregateRead,
        t = reads.map (·.exchange reader.gateway.settings.multicall target authority) ∧
        (∀ read ∈ reads, read.keys <:+: identities ∧ read.keys ≠ []) ∧
        reads.length ≤ 2 * identities.length -
          (identities.length + Nat.max reader.chunkSize 1 - 1) / Nat.max reader.chunkSize 1 ∧
        ((∃ m, r = .ok m) ∨ ∃ details, r = .error (.statusReadFailed authority.label details)) ∧
        ((∃ details, r = .error (.statusReadFailed authority.label details)) ↔
          ∃ read ∈ reads, read.Fails) ∧
        ∀ f : Multicall.Call → Multicall.Answer,
          (∀ read ∈ reads, read.Pointwise target authority f) →
          (∀ read ∈ reads, read.keys.length = 1 → ∃ raw, read.answer = .ok raw) →
          ∃ m, r = .ok m ∧ ∀ k, m.get? k =
            if k ∈ identities then
              some (statusOfAnswer authority (f (lookupCall target authority k)))
            else none := by
  refine ⟨fun h s => exists_run_of_not_stalls (fun t => batchStatus_not_stalls) h s, ?_⟩
  intro t r yields
  obtain ⟨reads, rfl, serving⟩ := batchStatus_yields ht yields
  have fits : ∀ range ∈ (RangeQueue.ofLength identities.length reader.chunkSize).pending,
      range.Fits identities.length := fun range hr => fits_of_mem_chunkRanges hr
  have ends := serving.fails_cases fits
  refine ⟨reads, rfl, serving.keys_of_mem fits, ?bound, ?ends, ?fails, ?lookups⟩
  case bound =>
    have most := serving.length_le
    have weight := RangeQueue.weight_ofLength identities reader.chunkSize
    omega
  case ends =>
    obtain ⟨m, ok, -⟩ | ⟨details, failed, -⟩ := ends
    · exact .inl ⟨m, ok⟩
    · exact .inr ⟨details, failed⟩
  case fails =>
    obtain ⟨m, rfl, sound⟩ | ⟨details, rfl, fails⟩ := ends
    · simpa using sound
    · exact iff_of_true ⟨details, rfl⟩ fails
  case lookups =>
    intro f pointwise answered
    obtain ⟨m, rfl, -⟩ | ⟨-, -, read, hread, fails⟩ := ends
    · refine ⟨m, rfl, fun k => ?_⟩
      obtain ⟨absent, now⟩ | ⟨present, read, hread, status, now, tells⟩ := serving.get?_of_whole k
      · rw [if_neg absent, now]
      · rw [if_pos present, now, (pointwise read hread).status_eq tells]
    · exact absurd fails ((pointwise read hread).not_fails (answered read hread))

/-! ## A node that answers one lookup at a time -/

def sampleAnswer : Multicall.Answer :=
  ⟨true, Registry.ProposerInfo.encode ⟨1, .replicate 20 7, .replicate 20 8⟩⟩

/-- The answer to an aggregate of one lookup; larger ones are refused for their size. -/
def narrowReply (data : Bytes) : Except Error Bytes :=
  if data.length < 500 then .ok (Multicall.encodeAnswers [sampleAnswer])
  else .error (.nodeRpc "eth_call" "response size exceeded")

def narrowNode : Surroundings (List Bytes)
  | .node (.call _ data), pool => (narrowReply data, pool)
  | q, pool => Gateway.takingNode false q pool

theorem narrowNode_call (target : Address) (data : Bytes) (pool : List Bytes) :
    (narrowNode (.node (.call target data)) pool).1 = narrowReply data := rfl

def narrowReader : StatusReader :=
  ⟨Gateway.hastyGateway Gateway.sampleKey, .zero, none, 1000⟩

def sampleIdentities : List PublicKey :=
  [.replicate 48 1, .replicate 48 2]

theorem sampleAnswer_decodes :
    Multicall.decodeAnswers? (Multicall.encodeAnswers [sampleAnswer]) = some [sampleAnswer] := by
  decide +kernel

def sampleAggregate (keys : List PublicKey) : Bytes :=
  Multicall.encode (keys.map (lookupCall .zero .registry))

theorem narrowReply_sampleAggregate :
    narrowReply (sampleAggregate [.replicate 48 1]) =
        .ok (Multicall.encodeAnswers [sampleAnswer]) ∧
      narrowReply (sampleAggregate [.replicate 48 2]) =
        .ok (Multicall.encodeAnswers [sampleAnswer]) ∧
      narrowReply (sampleAggregate [.replicate 48 1, .replicate 48 2]) =
        .error (.nodeRpc "eth_call" "response size exceeded") := by
  have lengths : (sampleAggregate [.replicate 48 1]).length < 500 ∧
      (sampleAggregate [.replicate 48 2]).length < 500 ∧
      ¬(sampleAggregate [.replicate 48 1, .replicate 48 2]).length < 500 := by
    decide +kernel
  obtain ⟨first, second, both⟩ := lengths
  exact ⟨if_pos first, if_pos second, if_neg both⟩

theorem narrowReply_pointwise {read : AggregateRead}
    (asked : read.keys <:+: sampleIdentities ∧ read.keys ≠ [])
    (answer : read.answer = narrowReply (sampleAggregate read.keys)) :
    read.Pointwise .zero .registry (fun _ => sampleAnswer) ∧
      (read.keys.length = 1 → ∃ raw, read.answer = .ok raw) := by
  obtain ⟨keys, reply⟩ := read
  obtain ⟨first, second, both⟩ := narrowReply_sampleAggregate
  have single (k : PublicKey) (told : reply = .ok (Multicall.encodeAnswers [sampleAnswer])) :
      AggregateRead.Pointwise .zero .registry (fun _ => sampleAnswer) ⟨[k], reply⟩ ∧
        ([k].length = 1 → ∃ raw, reply = .ok raw) :=
    ⟨.inr ⟨_, told, sampleAnswer_decodes⟩, fun _ => ⟨_, told⟩⟩
  have cases : keys = [.replicate 48 1] ∨ keys = [.replicate 48 2] ∨
      keys = [.replicate 48 1, .replicate 48 2] := by
    obtain ⟨part, some⟩ := asked
    simp only [sampleIdentities, List.infix_cons_iff, List.prefix_cons_iff, List.infix_nil,
      List.prefix_nil] at part
    grind
  obtain rfl | rfl | rfl := cases
  · exact single _ (answer.trans first)
  · exact single _ (answer.trans second)
  · exact ⟨.inl ⟨_, answer.trans both, by decide +kernel⟩, nofun⟩

/-- A reading of two identities is halved, and tells of each of them what the node answers. -/
theorem batchStatus_refines_lookups_narrow :
    narrowReader.target .registry = .ok .zero ∧
      ∃ (t : List Exchange) (m : StatusMap),
        (narrowReader.batchStatus sampleIdentities .registry).Yields t (.ok m) ∧
          m.get? (.replicate 48 2) = some (statusOfAnswer .registry sampleAnswer) := by
  have target : narrowReader.target .registry = .ok .zero := rfl
  obtain ⟨total, reading⟩ := batchStatus_refines_lookups target sampleIdentities
  obtain ⟨r, pool, run⟩ := total narrowNode []
  have yields := yields_transcript narrowNode _ [] (congrArg Prod.fst run)
  obtain ⟨reads, ht, asked, -, -, -, lookups⟩ := reading _ r yields
  have answered : ∀ read ∈ reads, read.Pointwise .zero .registry (fun _ => sampleAnswer) ∧
      (read.keys.length = 1 → ∃ raw, read.answer = .ok raw) := by
    intro read hread
    obtain ⟨before, behind, rfl⟩ := List.append_of_mem hread
    rw [List.map_append, List.map_cons] at ht
    have told : read.answer = (narrowNode (.node (.call .zero (sampleAggregate read.keys)))
        (after narrowNode _ [])).1 := transcript_answer narrowNode _ [] ht
    exact narrowReply_pointwise (asked read hread) (told.trans (narrowNode_call ..))
  obtain ⟨m, rfl, told⟩ := lookups (fun _ => sampleAnswer) (fun read hread => (answered read hread).1)
    fun read hread => (answered read hread).2
  exact ⟨target, _, m, yields, (told _).trans (if_pos (by simp [sampleIdentities]))⟩

end StatusReader

end Registrar
