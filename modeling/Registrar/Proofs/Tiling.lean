import Registrar.Proofs.Reading

/-! Ranges that are handed out one by one, each either served or put back in halves. Whatever is
decided about them, the ranges that were served, the one in hand and those that are pending tile the
indices: nothing is left out and nothing is served twice. -/
namespace Registrar
set_option autoImplicit false

/-! ## Tilings -/

/-- The ranges are not empty, and each begins where the one before it ends. -/
def Tiles (origin stop : Nat) : List IndexRange → Prop
  | [] => origin = stop
  | r :: rest => r.start = origin ∧ origin < r.stop ∧ Tiles r.stop stop rest

def IndexRange.indices (r : IndexRange) : List Nat :=
  List.range' r.start r.length

variable {origin stop length width : Nat} {r lower upper : IndexRange}
  {ranges front back : List IndexRange}

theorem tiles_append :
    Tiles origin stop (front ++ back) ↔
      ∃ middle, Tiles origin middle front ∧ Tiles middle stop back := by
  induction front generalizing origin with
  | nil => simp [Tiles]
  | cons r rest ih =>
    simp only [List.cons_append, Tiles, ih]
    constructor
    · rintro ⟨start, full, middle, before, after⟩
      exact ⟨middle, ⟨start, full, before⟩, after⟩
    · rintro ⟨middle, ⟨start, full, before⟩, after⟩
      exact ⟨start, full, middle, before, after⟩

theorem Tiles.le (h : Tiles origin stop ranges) : origin ≤ stop := by
  induction ranges generalizing origin with
  | nil => exact Nat.le_of_eq h
  | cons r rest ih =>
    obtain ⟨-, full, others⟩ := h
    have := ih others
    omega

theorem Tiles.indices (h : Tiles origin stop ranges) :
    ranges.flatMap IndexRange.indices = List.range' origin (stop - origin) := by
  induction ranges generalizing origin with
  | nil =>
    cases h
    simp
  | cons r rest ih =>
    obtain ⟨rfl, full, others⟩ := h
    have behind := others.le
    have whole : stop - r.start = r.length + (stop - r.stop) := by
      unfold IndexRange.length
      omega
    have next : r.start + r.length = r.stop := by
      unfold IndexRange.length
      omega
    rw [List.flatMap_cons, ih others, IndexRange.indices, whole, ← List.range'_append_1, next]

theorem Tiles.length_pos (h : Tiles origin stop ranges) (hr : r ∈ ranges) : 0 < r.length := by
  obtain ⟨before, after, rfl⟩ := List.mem_iff_append.1 hr
  obtain ⟨middle, -, rfl, full, -⟩ := tiles_append.1 h
  unfold IndexRange.length
  omega

/-- The halves of a range tile what it tiled. -/
theorem Tiles.halves (h : Tiles origin stop (front ++ r :: back))
    (halved : r.halves? = some (lower, upper)) :
    Tiles origin stop (front ++ lower :: upper :: back) := by
  obtain ⟨middle, before, rfl, full, after⟩ := tiles_append.1 h
  obtain ⟨wide, rfl, rfl⟩ := IndexRange.halves?_eq_some halved
  unfold IndexRange.length at wide ⊢
  refine tiles_append.2 ⟨r.start, before, rfl, ?_, rfl, ?_, after⟩
  · dsimp only
    omega
  · dsimp only
    omega

theorem length_halves_le (halved : r.halves? = some (lower, upper)) :
    lower.length ≤ r.length ∧ upper.length ≤ r.length := by
  obtain ⟨wide, rfl, rfl⟩ := IndexRange.halves?_eq_some halved
  unfold IndexRange.length at wide ⊢
  constructor
  · dsimp only
    omega
  · dsimp only
    omega

/-! ## Chunks -/

theorem tiles_chunks (length count : Nat) (pos : 0 < width)
    (inside : count * width < length + width) :
    Tiles 0 (Nat.min (count * width) length)
      ((List.range count).map fun i => ⟨i * width, Nat.min (i * width + width) length⟩) := by
  induction count with
  | zero =>
    rw [Nat.zero_mul]
    exact (Nat.zero_min length).symm
  | succ count ih =>
    rw [Nat.succ_mul] at inside ⊢
    have below : Nat.min (count * width) length = count * width := Nat.min_eq_left (by omega)
    rw [List.range_succ, List.map_append]
    refine tiles_append.2 ⟨_, ih (by omega), below.symm, ?_, rfl⟩
    rw [below]
    exact Nat.lt_min.2 ⟨by omega, by omega⟩

theorem tiles_chunkRanges (length max : Nat) : Tiles 0 length (chunkRanges length max) := by
  unfold chunkRanges
  have pos : 0 < Nat.max max 1 := Nat.le_max_right max 1
  generalize Nat.max max 1 = width at pos
  have upTo : (length + width - 1) / width * width ≤ length + width - 1 := Nat.div_mul_le_self ..
  have reach : length + width - 1 < (length + width - 1) / width * width + width :=
    Nat.lt_div_mul_add pos
  have whole : Nat.min ((length + width - 1) / width * width) length = length :=
    Nat.min_eq_right (by omega)
  have tiled : Tiles 0 _ _ := tiles_chunks length _ pos (Nat.lt_of_le_of_lt upTo (by omega))
  rwa [whole] at tiled

theorem length_le_of_mem_chunkRanges {max : Nat} (hr : r ∈ chunkRanges length max) :
    r.length ≤ Nat.max max 1 := by
  obtain ⟨i, -, rfl⟩ := List.mem_map.1 hr
  rw [IndexRange.length, Nat.sub_le_iff_le_add']
  exact Nat.min_le_left ..

/-! ## Handing out -/

/-- Ranges on their way: still pending, in hand, and served in the order in which they were served;
and all that were ever handed out. -/
structure Desk where
  queue : RangeQueue
  inHand : Option IndexRange
  served : List IndexRange
  handedOut : List IndexRange
deriving DecidableEq

inductive Move where
  | fetch
  | serve
  | split
deriving DecidableEq

namespace Desk

def start (length max : Nat) : Desk :=
  ⟨.ofLength length max, none, [], []⟩

/-- One move. A range is fetched with empty hands, and only a range in hand is served or split; when
there is nothing to fetch or the range cannot be split, nothing changes. -/
def move? (d : Desk) : Move → Option Desk
  | .fetch =>
    match d.inHand with
    | some _ => none
    | none =>
      match d.queue.next? with
      | none => some d
      | some (r, queue) => some ⟨queue, some r, d.served, d.handedOut ++ [r]⟩
  | .serve => d.inHand.map fun r => ⟨d.queue, none, d.served ++ [r], d.handedOut⟩
  | .split => d.inHand.map fun r =>
    match d.queue.split? r with
    | none => d
    | some queue => ⟨queue, none, d.served, d.handedOut⟩

def run? (d : Desk) (moves : List Move) : Option Desk :=
  moves.foldlM move? d

variable {d d' : Desk} {m : Move}

theorem move?_cases (moved : d.move? m = some d') :
    d' = d ∨
      (∃ r rest, m = .fetch ∧ d.inHand = none ∧ d.queue.pending = r :: rest ∧
        d' = ⟨⟨rest⟩, some r, d.served, d.handedOut ++ [r]⟩) ∨
      (∃ r, m = .serve ∧ d.inHand = some r ∧
        d' = ⟨d.queue, none, d.served ++ [r], d.handedOut⟩) ∨
      ∃ r lower upper, m = .split ∧ d.inHand = some r ∧ r.halves? = some (lower, upper) ∧
        d' = ⟨⟨lower :: upper :: d.queue.pending⟩, none, d.served, d.handedOut⟩ := by
  obtain ⟨⟨pending⟩, inHand, served, handedOut⟩ := d
  cases m with
  | fetch =>
    cases inHand with
    | some r => cases moved
    | none =>
      cases pending with
      | nil =>
        cases moved
        exact .inl rfl
      | cons r rest =>
        cases moved
        exact .inr (.inl ⟨r, rest, rfl, rfl, rfl, rfl⟩)
  | serve =>
    obtain ⟨r, rfl, rfl⟩ := Option.map_eq_some_iff.1 moved
    exact .inr (.inr (.inl ⟨r, rfl, rfl, rfl⟩))
  | split =>
    obtain ⟨r, rfl, rfl⟩ := Option.map_eq_some_iff.1 moved
    unfold RangeQueue.split?
    cases halved : r.halves? with
    | none => exact .inl rfl
    | some halves => exact .inr (.inr (.inr ⟨r, halves.1, halves.2, rfl, rfl, halved, rfl⟩))

/-! ## What every move keeps -/

/-- How many more ranges can be handed out on account of the one in hand. -/
def handWeight (d : Desk) : Nat :=
  d.inHand.elim 0 fun r => RangeQueue.rangeWeight r - 1

/-- The ranges that are still to be served, those in hand before those that are pending. -/
def left (d : Desk) : List IndexRange :=
  d.inHand.toList ++ d.queue.pending

theorem left_eq_nil_iff : d.left = [] ↔ d.inHand = none ∧ d.queue.next? = none := by
  rw [left, List.append_eq_nil_iff, RangeQueue.next?_eq_none_iff]
  cases d.inHand with
  | none => exact and_congr_left' ⟨fun _ => rfl, fun _ => rfl⟩
  | some r => exact and_congr_left' ⟨nofun, nofun⟩

structure Kept (length width : Nat) (d : Desk) : Prop where
  tiled : Tiles 0 length (d.served ++ d.left)
  narrow : ∀ r ∈ d.handedOut ++ d.left, r.length ≤ width
  spent : d.handedOut.length + d.handWeight + d.queue.weight ≤ 2 * length

theorem kept_start (length max : Nat) : (start length max).Kept length (Nat.max max 1) where
  tiled := tiles_chunkRanges length max
  narrow r hr := by
    have chunk : r ∈ chunkRanges length max := hr
    exact length_le_of_mem_chunkRanges chunk
  spent := by
    have weight := RangeQueue.weight_ofLength (List.replicate length ()) max
    rw [List.length_replicate] at weight
    have bounded : (RangeQueue.ofLength length max).weight ≤ 2 * length := Nat.le.intro weight
    change 0 + 0 + (RangeQueue.ofLength length max).weight ≤ 2 * length
    omega

theorem Kept.fetch {q : RangeQueue} {served handedOut rest : List IndexRange}
    (pending : q.pending = r :: rest) (h : (⟨q, none, served, handedOut⟩ : Desk).Kept length width) :
    (⟨⟨rest⟩, some r, served, handedOut ++ [r]⟩ : Desk).Kept length width := by
  obtain ⟨_⟩ := q
  cases pending
  -- The order of what is left is the same, only the first range has changed hands.
  refine ⟨h.tiled, ?narrow, ?spent⟩
  case narrow =>
    intro r' hr'
    refine h.narrow r' ?_
    simp only [left, List.mem_append, Option.toList_some, List.mem_cons, Option.toList_none,
      List.nil_append] at hr' ⊢
    tauto
  case spent =>
    have pos := RangeQueue.rangeWeight_pos r
    have spent := h.spent
    rw [RangeQueue.weight_cons] at spent
    simp only [handWeight, Option.elim, List.length_append, List.length_singleton] at spent ⊢
    omega

theorem Kept.serve {q : RangeQueue} {served handedOut : List IndexRange}
    (h : (⟨q, some r, served, handedOut⟩ : Desk).Kept length width) :
    (⟨q, none, served ++ [r], handedOut⟩ : Desk).Kept length width := by
  refine ⟨?tiled, ?narrow, ?spent⟩
  case tiled =>
    have tiled := h.tiled
    simpa [left] using tiled
  case narrow =>
    intro r' hr'
    refine h.narrow r' ?_
    simp only [left, List.mem_append, Option.toList_some, List.mem_singleton, Option.toList_none,
      List.nil_append] at hr' ⊢
    tauto
  case spent =>
    have spent := h.spent
    simp only [handWeight, Option.elim] at spent ⊢
    omega

theorem Kept.split {q : RangeQueue} {served handedOut : List IndexRange}
    (halved : r.halves? = some (lower, upper))
    (h : (⟨q, some r, served, handedOut⟩ : Desk).Kept length width) :
    (⟨⟨lower :: upper :: q.pending⟩, none, served, handedOut⟩ : Desk).Kept length width := by
  refine ⟨h.tiled.halves halved, ?narrow, ?spent⟩
  case narrow =>
    intro r' hr'
    have whole : r.length ≤ width := h.narrow r (by simp [left])
    obtain ⟨below, above⟩ := length_halves_le halved
    simp only [left, List.mem_append, Option.toList_none, List.nil_append, List.mem_cons] at hr'
    obtain before | rfl | rfl | behind := hr'
    · exact h.narrow r' (List.mem_append_left _ before)
    · omega
    · omega
    · exact h.narrow r' (List.mem_append_right _ (List.mem_append_right _ behind))
  case spent =>
    have spent := h.spent
    have less : RangeQueue.weight ⟨lower :: upper :: q.pending⟩ <
        RangeQueue.rangeWeight r + q.weight :=
      RangeQueue.weight_split (by rw [RangeQueue.split?, halved]; rfl)
    simp only [handWeight, Option.elim] at spent ⊢
    omega

theorem Kept.move (h : d.Kept length width) (moved : d.move? m = some d') :
    d'.Kept length width := by
  obtain ⟨q, inHand, served, handedOut⟩ := d
  obtain rfl | ⟨r, rest, -, rfl, pending, rfl⟩ | ⟨r, -, rfl, rfl⟩ |
    ⟨r, lower, upper, -, rfl, halved, rfl⟩ := move?_cases moved
  · exact h
  · exact h.fetch pending
  · exact h.serve
  · exact h.split halved

theorem Kept.run {moves : List Move} (h : d.Kept length width) (ran : d.run? moves = some d') :
    d'.Kept length width := by
  induction moves generalizing d with
  | nil =>
    cases ran
    exact h
  | cons m rest ih =>
    rw [run?, List.foldlM_cons] at ran
    obtain ⟨next, moved, others⟩ := Option.bind_eq_some_iff.1 ran
    exact ih (h.move moved) others

/-! ## Runs -/

/-- Whatever is served or split, and in whichever order: the ranges that were served hold the first
indices in ascending order and those that are left tile the others. When the hands are empty and
there is none to fetch, all indices were served. No range is wider than allowed, only a range of one
index cannot be split, and after twice as many ranges as there are indices there is none to fetch. -/
theorem run_tiles {max : Nat} {moves : List Move} (ran : (start length max).run? moves = some d) :
    (∃ next, d.served.flatMap IndexRange.indices = List.range next ∧ Tiles next length d.left) ∧
      (d.inHand = none → d.queue.next? = none →
        d.served.flatMap IndexRange.indices = List.range length) ∧
      (∀ r ∈ d.handedOut, r.length ≤ Nat.max max 1) ∧
      (∀ r, d.inHand = some r →
        (d.queue.split? r = none ↔ r.length = 1) ∧ (r.length = 1 → d.move? .split = some d)) ∧
      d.handedOut.length ≤ 2 * length ∧
      (d.handedOut.length = 2 * length → d.queue.next? = none) := by
  have kept := (kept_start length max).run ran
  obtain ⟨next, before, after⟩ := tiles_append.1 kept.tiled
  have served : d.served.flatMap IndexRange.indices = List.range next := by
    rw [before.indices, Nat.sub_zero, List.range_eq_range']
  have spent := kept.spent
  refine ⟨⟨next, served, after⟩, ?all, ?narrow, ?single, by omega, ?none⟩
  case all =>
    intro empty none
    rw [left_eq_nil_iff.2 ⟨empty, none⟩] at after
    rw [served, show next = length from after]
  case narrow =>
    intro r hr
    exact kept.narrow r (List.mem_append_left _ hr)
  case single =>
    intro r held
    have pos : 0 < r.length := by
      refine kept.tiled.length_pos (List.mem_append_right _ ?_)
      simp [left, held]
    have refused : d.queue.split? r = none ↔ r.length = 1 := by
      rw [RangeQueue.split?, Option.map_eq_none_iff, IndexRange.halves?_eq_none]
      omega
    refine ⟨refused, ?_⟩
    intro one
    simp only [move?, held, refused.2 one, Option.map_some]
  case none =>
    intro all
    have nothing : d.queue.weight = 0 := by omega
    rw [RangeQueue.next?_eq_none_iff]
    obtain ⟨⟨pending⟩, inHand, done, out⟩ := d
    cases pending with
    | nil => rfl
    | cons r rest =>
      exfalso
      have pos := RangeQueue.rangeWeight_pos r
      rw [RangeQueue.weight_cons] at nothing
      omega

/-- Five indices in ranges of three: the first range is halved, and a range of one index is not. The
last fetch finds nothing. -/
theorem run_tiles_five :
    let moves : List Move :=
      [.fetch, .split, .fetch, .split, .serve, .fetch, .serve, .fetch, .serve, .fetch]
    ∃ d, (start 5 3).run? moves = some d ∧ d.handedOut = [⟨0, 3⟩, ⟨0, 1⟩, ⟨1, 3⟩, ⟨3, 5⟩] ∧
      d.inHand = none ∧ d.queue.next? = none ∧
      d.served.flatMap IndexRange.indices = [0, 1, 2, 3, 4] := by
  intro moves
  let d : Desk := ⟨⟨[]⟩, none, [⟨0, 1⟩, ⟨1, 3⟩, ⟨3, 5⟩], [⟨0, 3⟩, ⟨0, 1⟩, ⟨1, 3⟩, ⟨3, 5⟩]⟩
  have ran : (start 5 3).run? moves = some d := by decide
  obtain ⟨-, all, -⟩ := run_tiles ran
  exact ⟨d, ran, rfl, rfl, rfl, all rfl rfl⟩

end Desk

end Registrar
