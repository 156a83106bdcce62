import Registrar.Proofs.RowSafety
import Registrar.Proofs.Sending

/-! Nodes that apply transactions: at each moment the authorities hold what the transactions applied
by then have made of their records, and what is confirmed has been applied. -/
namespace Registrar
set_option autoImplicit false

open Program Contract

/-! ## Rows entered one after another -/

/-- A record stays as it was, or is the one that the last row of its key puts there. -/
theorem foldl_update_cases {ρ κ α : Type} [DecidableEq κ] (key : ρ → κ) (value : ρ → α)
    (rows : List ρ) (held : κ → α) (k : κ) :
    ((∀ row ∈ rows, key row ≠ k) ∧
      rows.foldl (fun held row => Function.update held (key row) (value row)) held k = held k) ∨
    ∃ row ∈ rows, key row = k ∧
      rows.foldl (fun held row => Function.update held (key row) (value row)) held k =
        value row := by
  induction rows using List.reverseRecOn with
  | nil => exact .inl ⟨by simp, rfl⟩
  | append_singleton rows row ih =>
    rw [List.foldl_concat]
    by_cases hk : key row = k
    · exact .inr ⟨row, by simp, hk, by rw [hk, Function.update_self]⟩
    rw [Function.update_of_ne (Ne.symm hk)]
    obtain ⟨others, same⟩ | ⟨other, hother, hk', same⟩ := ih
    · refine .inl ⟨List.forall_mem_append.2 ⟨others, ?_⟩, same⟩
      exact List.forall_mem_singleton.2 hk
    · exact .inr ⟨other, List.mem_append_left _ hother, hk', same⟩

namespace Engine

variable {e : Engine} {c : Holdings} {raws : List Bytes} {a : Authority} {k : PublicKey}

/-- What the authorities hold once the transactions have been applied in their order. -/
def settleAll (e : Engine) (c : Holdings) (raws : List Bytes) : Holdings :=
  raws.foldl e.settle c

theorem settleAll_registry (e : Engine) (c : Holdings) (raws : List Bytes) :
    (e.settleAll c raws).registry =
      (raws.flatMap e.registryRows).foldl
        (fun held row => Function.update held row.pubkey ⟨1, e.signer, row.payoutRecipient⟩)
        c.registry := by
  induction raws generalizing c with
  | nil => rfl
  | cons raw rest ih =>
    rw [List.flatMap_cons, List.foldl_append]
    exact ih (e.settle c raw)

theorem settleAll_ledger (e : Engine) (c : Holdings) (raws : List Bytes) :
    (e.settleAll c raws).ledger =
      (raws.flatMap e.ledgerRows).foldl
        (fun held row => Function.update held row.pubkey ⟨e.signer, row.payoutRecipient, 1⟩)
        c.ledger := by
  induction raws generalizing c with
  | nil => rfl
  | cons raw rest ih =>
    rw [List.flatMap_cons, List.foldl_append]
    exact ih (e.settle c raw)

theorem settleAll_append (e : Engine) (c : Holdings) (raws others : List Bytes) :
    e.settleAll c (raws ++ others) = e.settleAll (e.settleAll c raws) others :=
  List.foldl_append

/-- The registry's record of an identity is the first one, or the one that a row put there. -/
theorem settleAll_registry_cases (e : Engine) (c : Holdings) (raws : List Bytes) (k : PublicKey) :
    ((∀ row ∈ raws.flatMap e.registryRows, row.pubkey ≠ k) ∧
      (e.settleAll c raws).registry k = c.registry k) ∨
    ∃ row ∈ raws.flatMap e.registryRows, row.pubkey = k ∧
      (e.settleAll c raws).registry k = ⟨1, e.signer, row.payoutRecipient⟩ := by
  rw [settleAll_registry]
  exact foldl_update_cases _ _ _ _ _

theorem settleAll_ledger_cases (e : Engine) (c : Holdings) (raws : List Bytes) (k : PublicKey) :
    ((∀ row ∈ raws.flatMap e.ledgerRows, row.pubkey ≠ k) ∧
      (e.settleAll c raws).ledger k = c.ledger k) ∨
    ∃ row ∈ raws.flatMap e.ledgerRows, row.pubkey = k ∧
      (e.settleAll c raws).ledger k = ⟨e.signer, row.payoutRecipient, 1⟩ := by
  rw [settleAll_ledger]
  exact foldl_update_cases _ _ _ _ _

/-- Whoever stands in a transaction that was applied is known to the authority. -/
theorem known_settleAll (signer : e.signer.isZero = false)
    (h : ((c.status a k).isUnregistered = false) ∨ ∃ raw ∈ raws, k ∈ e.rowKeys raw a) :
    ((e.settleAll c raws).status a k).isUnregistered = false := by
  cases a with
  | registry =>
    obtain ⟨others, same⟩ | ⟨row, -, -, same⟩ := settleAll_registry_cases e c raws k
    · rw [Holdings.status, same]
      obtain known | ⟨raw, hraw, hk⟩ := h
      · exact known
      · obtain ⟨row, hrow, hk⟩ := List.mem_map.1 hk
        exact absurd hk (others row (List.mem_flatMap.2 ⟨raw, hraw, hrow⟩))
    · rw [Holdings.status, same]
      rfl
  | delegationLedger =>
    obtain ⟨others, same⟩ | ⟨row, -, -, same⟩ := settleAll_ledger_cases e c raws k
    · rw [Holdings.status, same]
      obtain known | ⟨raw, hraw, hk⟩ := h
      · exact known
      · obtain ⟨row, hrow, hk⟩ := List.mem_map.1 hk
        exact absurd hk (others row (List.mem_flatMap.2 ⟨raw, hraw, hrow⟩))
    · rw [Holdings.status, same]
      change (StatusKind.ofLedger e.signer 1).isUnregistered = false
      exact StatusKind.isUnregistered_ofLedger signer 1

/-! ## What a node owes that applies transactions -/

/-- The node applies, in some order, transactions that were broadcast, and one that it confirms has
been applied; nothing else changes the records that the aggregates show. -/
structure Applying (e : Engine) (reader : StatusReader) (initial : Holdings)
    (applied : List Exchange → List Bytes) (t : List Exchange) : Prop where
  grows : ∀ u x, u ++ [x] <+: t → applied u <+: applied (u ++ [x])
  sent : ∀ u, u <+: t → applied u ⊆ broadcasts u
  confirmed : ∀ u x raw, u ++ [x] <+: t → raw ∈ broadcasts u → x.Confirms raw →
    raw ∈ applied (u ++ [x])
  mirrors : reader.Mirrors (fun u => e.settleAll initial (applied u)) t

theorem Applying.applied_append {reader : StatusReader} {initial : Holdings}
    {applied : List Exchange → List Bytes} {t u v : List Exchange}
    (h : e.Applying reader initial applied t) (inside : u ++ v <+: t) :
    applied u <+: applied (u ++ v) := by
  induction v using List.reverseRecOn with
  | nil => simp
  | append_singleton v x ih =>
    rw [← List.append_assoc] at inside ⊢
    exact (ih ((List.prefix_append ..).trans inside)).trans (h.grows _ x inside)

theorem Applying.applied_of_settled {reader : StatusReader} {initial : Holdings}
    {applied : List Exchange → List Bytes} {t u v : List Exchange} {raw : Bytes}
    (h : e.Applying reader initial applied t) (inside : u ++ v <+: t) (settled : Settled u raw) :
    raw ∈ applied (u ++ v) := by
  obtain ⟨w, x, rest, rfl, sent, confirms⟩ := settled
  have split : w ++ x :: rest ++ v = w ++ [x] ++ (rest ++ v) := by simp
  rw [split] at inside ⊢
  exact (h.applied_append inside).subset
    (h.confirmed w x raw ((List.prefix_append ..).trans inside) sent confirms)

/-! ## Plans that are carried out -/

/-- The rows that are broadcast in the exchanges are the rows of the plan, and every row of the plan
stands in a transaction that succeeded. -/
structure Enters (e : Engine) (plan : Plan) (t : List Exchange) : Prop where
  registry : ∀ raw ∈ broadcasts t, e.registryRows raw ⊆ plan.registryBatch
  delegation : ∀ raw ∈ broadcasts t, e.ledgerRows raw ⊆ plan.delegationBatch
  registrySettled : ∀ row ∈ plan.registryBatch, ∃ raw, Settled t raw ∧ row ∈ e.registryRows raw
  delegationSettled : ∀ row ∈ plan.delegationBatch, ∃ raw, Settled t raw ∧ row ∈ e.ledgerRows raw

namespace Enters

variable {plan plan' : Plan} {t u v : List Exchange}

theorem of_silent (silent : Silent t) : e.Enters .empty t where
  registry raw hraw := by
    rw [broadcasts_of_silent silent] at hraw
    cases hraw
  delegation raw hraw := by
    rw [broadcasts_of_silent silent] at hraw
    cases hraw
  registrySettled := nofun
  delegationSettled := nofun

theorem append (h : e.Enters plan t) (h' : e.Enters plan' u) :
    e.Enters (plan ++ plan') (t ++ u) where
  registry raw hraw row hrow := by
    rw [broadcasts_append] at hraw
    refine List.mem_append.2 ((List.mem_append.1 hraw).imp ?_ ?_)
    · exact fun hraw => h.registry raw hraw hrow
    · exact fun hraw => h'.registry raw hraw hrow
  delegation raw hraw row hrow := by
    rw [broadcasts_append] at hraw
    refine List.mem_append.2 ((List.mem_append.1 hraw).imp ?_ ?_)
    · exact fun hraw => h.delegation raw hraw hrow
    · exact fun hraw => h'.delegation raw hraw hrow
  registrySettled row hrow := by
    obtain hrow | hrow := List.mem_append.1 hrow
    · obtain ⟨raw, settled, hrow⟩ := h.registrySettled row hrow
      exact ⟨raw, settled.mono (List.prefix_append ..).isInfix, hrow⟩
    · obtain ⟨raw, settled, hrow⟩ := h'.registrySettled row hrow
      exact ⟨raw, settled.mono (List.suffix_append ..).isInfix, hrow⟩
  delegationSettled row hrow := by
    obtain hrow | hrow := List.mem_append.1 hrow
    · obtain ⟨raw, settled, hrow⟩ := h.delegationSettled row hrow
      exact ⟨raw, settled.mono (List.prefix_append ..).isInfix, hrow⟩
    · obtain ⟨raw, settled, hrow⟩ := h'.delegationSettled row hrow
      exact ⟨raw, settled.mono (List.suffix_append ..).isInfix, hrow⟩

theorem append_silent (h : e.Enters plan t) (silent : Silent u) : e.Enters plan (t ++ u) := by
  have all := h.append (of_silent silent)
  have whole : plan ++ .empty = plan := by
    change Plan.mk (plan.results ++ []) (plan.registryBatch ++ []) (plan.delegationBatch ++ []) = _
    simp only [List.append_nil]
  rwa [whole] at all

/-- Until something else is broadcast, the rows that have been applied are those of the plan. -/
theorem applied_iff {reader : StatusReader} {initial : Holdings}
    {applied : List Exchange → List Bytes} (h : e.Enters plan u)
    (applying : e.Applying reader initial applied t) (silent : Silent v) (inside : u ++ v <+: t) :
    (∀ row, row ∈ (applied (u ++ v)).flatMap e.registryRows ↔ row ∈ plan.registryBatch) ∧
      ∀ row, row ∈ (applied (u ++ v)).flatMap e.ledgerRows ↔ row ∈ plan.delegationBatch := by
  have sent : applied (u ++ v) ⊆ broadcasts u := by
    have sent := applying.sent _ inside
    rwa [broadcasts_append, broadcasts_of_silent silent, List.append_nil] at sent
  refine ⟨fun row => ?_, fun row => ?_⟩
  · constructor
    · intro hrow
      obtain ⟨raw, hraw, hrow⟩ := List.mem_flatMap.1 hrow
      exact h.registry raw (sent hraw) hrow
    · intro hrow
      obtain ⟨raw, settled, hrow⟩ := h.registrySettled row hrow
      exact List.mem_flatMap.2 ⟨raw, applying.applied_of_settled inside settled, hrow⟩
  · constructor
    · intro hrow
      obtain ⟨raw, hraw, hrow⟩ := List.mem_flatMap.1 hrow
      exact h.delegation raw (sent hraw) hrow
    · intro hrow
      obtain ⟨raw, settled, hrow⟩ := h.delegationSettled row hrow
      exact List.mem_flatMap.2 ⟨raw, applying.applied_of_settled inside settled, hrow⟩

end Enters

/-- A batch all of whose attempts are confirmed stands in a transaction that succeeded. -/
theorem FinishedRun.settled {exclusions : ExclusionTable} (run : FinishedRun e exclusions)
    (confirms : ∀ a n status, report a n status ∈ run.exchanges → ∃ hash, status = .confirmed hash)
    {a : Authority} (due : run.plan.keys a ≠ []) :
    ∃ target raw, e.dispatcher.target? a = some target ∧
      e.gateway.Carries target (run.plan.callData a) raw ∧ Settled run.exchanges raw := by
  obtain ⟨part, attempt, sending, carried, -⟩ := Dispatcher.dispatch_carried run.finishes
  have inside := run.part_infix sending a
  have carriedBy := carried a
  generalize part a = t at carriedBy inside
  generalize attempt a = made at carriedBy
  cases carriedBy with
  | nothing h => exact absurd h due
  | attempted target t sent h ht attempted =>
    obtain ⟨hash, confirmed⟩ := confirms a _ sent.status
      (inside.subset (List.mem_append_right _ (List.mem_singleton_self _)))
    obtain ⟨raw, -, carries, -, settled⟩ := attempted.settled confirmed
    exact ⟨target, raw, ht, carries,
      settled.mono ((List.prefix_append ..).isInfix.trans inside)⟩

/-- A chunk that was sent to its end, and whose attempts were confirmed, has its plan carried out. -/
theorem FinishedRun.enters {exclusions : ExclusionTable} (run : FinishedRun e exclusions)
    (short : ∀ raw ∈ broadcasts run.exchanges, raw.length < 2 ^ 64)
    (confirms : ∀ a n status, report a n status ∈ run.exchanges →
      ∃ hash, status = .confirmed hash) : e.Enters run.plan run.exchanges := by
  have batch {raw : Bytes} (hraw : raw ∈ broadcasts run.exchanges) :
      ∃ a target, e.dispatcher.target? a = some target ∧
        e.gateway.Carries target (run.plan.callData a) raw := by
    obtain ⟨answer, hx⟩ := mem_broadcasts.1 hraw
    obtain carries | ⟨ledger, hl, carries⟩ :=
      run.broadcasts (run.mem_sending hx fun calm => calm.1 raw rfl)
    · exact ⟨.registry, _, rfl, carries⟩
    · exact ⟨.delegationLedger, ledger, hl, carries⟩
  have sent {raw : Bytes} (h : Settled run.exchanges raw) : raw.length < 2 ^ 64 := by
    obtain ⟨u, x, v, split, hraw, -⟩ := h
    refine short raw ?_
    rw [split, broadcasts_append]
    exact List.mem_append_left _ hraw
  constructor
  · intro raw hraw row hrow
    obtain ⟨a, target, ht, carries⟩ := batch hraw
    rw [registryRows_of_carries ht carries (short raw hraw)] at hrow
    split at hrow
    · exact hrow
    · cases hrow
  · intro raw hraw row hrow
    obtain ⟨a, target, ht, carries⟩ := batch hraw
    rw [ledgerRows_of_carries ht carries (short raw hraw)] at hrow
    split at hrow
    · exact hrow
    · cases hrow
  · intro row hrow
    have due : run.plan.keys .registry ≠ [] := List.ne_nil_of_mem (List.mem_map_of_mem hrow)
    obtain ⟨target, raw, ht, carries, settled⟩ := run.settled confirms due
    refine ⟨raw, settled, ?_⟩
    rwa [registryRows_of_carries ht carries (sent settled), if_pos rfl]
  · intro row hrow
    have due : run.plan.keys .delegationLedger ≠ [] :=
      List.ne_nil_of_mem (List.mem_map_of_mem hrow)
    obtain ⟨target, raw, ht, carries, settled⟩ := run.settled confirms due
    refine ⟨raw, settled, ?_⟩
    rwa [ledgerRows_of_carries ht carries (sent settled), if_pos rfl]

end Engine

end Registrar
