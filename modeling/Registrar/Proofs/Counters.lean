import Registrar.Metrics
import Registrar.Proofs.Reading
import Mathlib.Algebra.BigOperators.Group.List.Basic
import Mathlib.Algebra.Ring.Nat
import Mathlib.Data.List.Perm.Basic

/-! Counters as sums. Whatever is counted, and in whatever order, each counter holds the sum of what
was added to it, and the summary agrees with the sums over the families. -/
namespace Registrar
set_option autoImplicit false

/-! ## Sums of a family -/

namespace Series

variable {s : Series} {values : List String} {n : Nat}

/-- The sum of the counters whose labels pass a test. -/
def sumOf (s : Series) (test : List String → Bool) : Nat :=
  ((s.rows.filter fun row => test row.1).map (·.2)).sum

def endsIn (last : String) (values : List String) : Bool :=
  values.getLast? = some last

/-- The sum of the counters with a result, for all authorities or actions, or of those with a
status, for all routes. -/
def sumFor (s : Series) (last : String) : Nat :=
  s.sumOf (endsIn last)

theorem total_eq_sumOf (s : Series) : s.total = s.sumOf fun _ => true := by
  rw [total, sumOf, List.filter_true]
  rfl

/-- What an addition makes of a counter, which need not have been there. -/
def raise (before : Option Nat) (n : Nat) : Option Nat :=
  some (before.getD 0 + n)

theorem raise_right_comm (before : Option Nat) (m n : Nat) :
    raise (raise before m) n = raise (raise before n) m :=
  congrArg some (Nat.add_right_comm _ m n)

theorem getD_foldl_raise (before : Option Nat) (amounts : List Nat) :
    (amounts.foldl raise before).getD 0 = before.getD 0 + amounts.sum := by
  induction amounts generalizing before with
  | nil => rfl
  | cons n rest ih =>
    rw [List.foldl_cons, ih, List.sum_cons]
    exact Nat.add_assoc _ _ _

theorem get?_add (values' : List String) :
    (s.add values n).get? values' =
      if values = values' then raise (s.get? values') n else s.get? values' := by
  rw [add, Table.get?_insert]
  split
  · rename_i same
    rw [count, same]
    rfl
  · rfl

theorem sumOf_add (s : Series) (values : List String) (n : Nat) (test : List String → Bool) :
    (s.add values n).sumOf test = s.sumOf test + if test values then n else 0 := by
  obtain ⟨rows⟩ := s
  unfold sumOf add Table.insert count Table.get?
  dsimp only
  induction rows with
  | nil => cases passes : test values <;> simp [Table.put, passes]
  | cons row rest ih =>
    by_cases same : row.1 = values
    -- The counter is there: its row is replaced by one that is larger by the amount.
    · subst same
      cases passes : test row.1 <;> simp [Table.put, passes]
      omega
    · cases passes : test row.1 <;> simp [Table.put, same, passes, ih]
      omega

end Series

/-! ## Additions -/

/-- An amount that is added to one counter. -/
structure Addition where
  family : Family
  values : List String
  amount : Nat

namespace Addition

/-- The addition goes to a counter of the family whose labels pass the test. -/
def goesTo (f : Family) (test : List String → Bool) (a : Addition) : Bool :=
  a.family.name = f.name && test a.values

/-- How much all the additions come to there. -/
def sumTo (f : Family) (test : List String → Bool) (additions : List Addition) : Nat :=
  ((additions.filter (goesTo f test)).map (·.amount)).sum

variable {f : Family} {test : List String → Bool} {additions others : List Addition}

theorem sumTo_append : sumTo f test (additions ++ others) =
    sumTo f test additions + sumTo f test others := by
  rw [sumTo, List.filter_append, List.map_append, List.sum_append]
  rfl

theorem sumTo_flatMap {α : Type} (additions : α → List Addition) (items : List α) :
    sumTo f test (items.flatMap additions) = (items.map fun a => sumTo f test (additions a)).sum := by
  induction items with
  | nil => rfl
  | cons a rest ih => rw [List.flatMap_cons, sumTo_append, ih, List.map_cons, List.sum_cons]

end Addition

namespace Metrics

open Addition

variable {m : Metrics} {f : Family} {test : List String → Bool}

def add (m : Metrics) (additions : List Addition) : Metrics :=
  additions.foldl (fun m a => m.count a.family a.values a.amount) m

theorem family_count (m : Metrics) (f g : Family) (values : List String) (n : Nat) :
    (m.count f values n).family g =
      if f.name = g.name then (m.family g).add values n else m.family g := by
  rw [count, family, Table.get?_insert]
  split
  · rename_i same
    rw [family, same]
    rfl
  · rfl

theorem get?_addAll (m : Metrics) (f : Family) (values : List String) (additions : List Addition) :
    ((m.add additions).family f).get? values =
      ((additions.filter (goesTo f (· = values))).map (·.amount)).foldl Series.raise
        ((m.family f).get? values) := by
  induction additions generalizing m with
  | nil => rfl
  | cons a rest ih =>
    have next := ih (m.count a.family a.values a.amount)
    rw [family_count] at next
    rw [add, List.foldl_cons, ← add, next, List.filter_cons]
    by_cases family : a.family.name = f.name
    · rw [if_pos family, Series.get?_add]
      by_cases same : a.values = values <;> simp [goesTo, family, same]
    · simp [goesTo, family]

theorem sumOf_addAll (m : Metrics) (f : Family) (test : List String → Bool)
    (additions : List Addition) :
    ((m.add additions).family f).sumOf test = (m.family f).sumOf test + sumTo f test additions := by
  induction additions generalizing m with
  | nil => rfl
  | cons a rest ih =>
    have next := ih (m.count a.family a.values a.amount)
    rw [family_count] at next
    rw [add, List.foldl_cons, ← add, next, sumTo, sumTo, List.filter_cons]
    by_cases family : a.family.name = f.name
    · rw [if_pos family, Series.sumOf_add]
      cases passes : test a.values <;> simp [goesTo, family, passes, Nat.add_assoc]
    · simp [goesTo, family]

end Metrics

/-! ## The summary -/

namespace MetricsSummary

def zero : MetricsSummary :=
  ⟨0, 0, 0, 0, 0, 0, 0⟩

def add (s t : MetricsSummary) : MetricsSummary :=
  ⟨s.classified + t.classified, s.omitted + t.omitted, s.confirmed + t.confirmed,
    s.failed + t.failed, s.unknown + t.unknown, s.httpOk + t.httpOk, s.httpError + t.httpError⟩

instance : Add MetricsSummary := ⟨add⟩

theorem add_right_comm (s t u : MetricsSummary) : s + t + u = s + u + t := by
  change add (add s t) u = add (add s u) t
  simp only [add, Nat.add_right_comm]

/-- A field of the summary, which adds up. -/
structure Field where
  value : MetricsSummary → Nat
  value_add : ∀ s t, value (s + t) = value s + value t

namespace Field

def classified : Field := ⟨MetricsSummary.classified, fun _ _ => rfl⟩
def omitted : Field := ⟨MetricsSummary.omitted, fun _ _ => rfl⟩
def confirmed : Field := ⟨MetricsSummary.confirmed, fun _ _ => rfl⟩
def failed : Field := ⟨MetricsSummary.failed, fun _ _ => rfl⟩
def unknown : Field := ⟨MetricsSummary.unknown, fun _ _ => rfl⟩
def httpOk : Field := ⟨MetricsSummary.httpOk, fun _ _ => rfl⟩
def httpError : Field := ⟨MetricsSummary.httpError, fun _ _ => rfl⟩

end Field

end MetricsSummary

/-! ## What is counted -/

/-- What the metrics are told. -/
inductive Tally where
  | request (route status : String)
  | classified (label : String)
  | omitted (reason : String)
  | dispatched (authority : Authority) (identities : Nat) (status : DispatchStatus)
  | acted (action : DelegationAction) (outcome : TransactionOutcome)
  | results (results : List ReconciliationResult)

namespace Tally

/-- What the results of a call add: one for each authority and result. -/
def reported (r : ReconciliationResult) : List Addition :=
  [Authority.registry, .delegationLedger].map fun a =>
    ⟨.processed, [a.label, (r.status a).label], 1⟩

def additions : Tally → List Addition
  | request route status => [⟨.requests, [route, status], 1⟩]
  | classified label => [⟨.classified, [label], 1⟩]
  | omitted reason => [⟨.omitted, [reason], 1⟩]
  | dispatched authority identities status =>
    [⟨.transactions, [authority.label, status.label], 1⟩,
      ⟨.dispatched, [authority.label], identities⟩]
  | acted action outcome => [⟨.actions, [action.label, outcome.label], 1⟩]
  | results rs => rs.flatMap reported

def result? : Tally → Option String
  | dispatched _ _ status => some status.label
  | acted _ outcome => some outcome.label
  | _ => none

def status? : Tally → Option String
  | request _ status => some status
  | _ => none

def ofResult (result : String) : MetricsSummary :=
  { MetricsSummary.zero with
    confirmed := if result = "confirmed" then 1 else 0
    failed := if result = "failed" then 1 else 0
    unknown := if result = "unknown" then 1 else 0 }

def increment : Tally → MetricsSummary
  | request _ status =>
    { MetricsSummary.zero with
      httpOk := if status = "ok" then 1 else 0
      httpError := if status = "error" then 1 else 0 }
  | classified _ => { MetricsSummary.zero with classified := 1 }
  | omitted _ => { MetricsSummary.zero with omitted := 1 }
  | dispatched _ _ status => ofResult status.label
  | acted _ outcome => ofResult outcome.label
  | results _ => .zero

end Tally

namespace Metrics

open Addition
open Series (endsIn sumFor raise_right_comm)

variable {m : Metrics}

def take (m : Metrics) : Tally → Metrics
  | .request route status => m.countRequest route status
  | .classified label => m.countClassified label
  | .omitted reason => m.countOmitted reason
  | .dispatched authority identities status => m.countDispatch authority identities status
  | .acted action outcome => m.countAction action outcome
  | .results results => m.countResults results

def takeAll (m : Metrics) (tallies : List Tally) : Metrics :=
  tallies.foldl take m

theorem add_append (m : Metrics) (additions others : List Addition) :
    m.add (additions ++ others) = (m.add additions).add others :=
  List.foldl_append

theorem summary_add (m : Metrics) (additions : List Addition) :
    (m.add additions).summary = m.summary := by
  induction additions generalizing m with
  | nil => rfl
  | cons a rest ih => exact ih (m.count a.family a.values a.amount)

theorem countResults_eq (m : Metrics) (results : List ReconciliationResult) :
    m.countResults results = m.add (results.flatMap Tally.reported) := by
  unfold countResults
  induction results generalizing m with
  | nil => rfl
  | cons r rest ih =>
    rw [List.foldl_cons, List.flatMap_cons, add_append, ih]
    rfl

theorem summary_countResult (m : Metrics) (result : String) :
    (m.countResult result).summary = m.summary + Tally.ofResult result := by
  by_cases confirmed : result = "confirmed"
  · subst confirmed
    rfl
  by_cases failed : result = "failed"
  · subst failed
    rfl
  by_cases unknown : result = "unknown"
  · subst unknown
    rfl
  · rw [countResult, Tally.ofResult, if_neg confirmed, if_neg failed, if_neg unknown,
      if_neg confirmed, if_neg failed, if_neg unknown]
    rfl

theorem series_take (m : Metrics) (t : Tally) :
    (m.take t).series = (m.add t.additions).series := by
  cases t with
  | request route status => rfl
  | classified label => rfl
  | omitted reason => rfl
  | dispatched authority identities status => rfl
  | acted action outcome => rfl
  | results rs => rw [take, countResults_eq, Tally.additions]

theorem summary_take (m : Metrics) (t : Tally) :
    (m.take t).summary = m.summary + t.increment := by
  cases t with
  | request route status =>
    by_cases ok : status = "ok"
    · subst ok
      rfl
    by_cases error : status = "error"
    · subst error
      rfl
    · rw [take, countRequest, Tally.increment, if_neg ok, if_neg error, if_neg ok, if_neg error]
      rfl
  | classified label => rfl
  | omitted reason => rfl
  | dispatched authority identities status => exact summary_countResult _ status.label
  | acted action outcome => exact summary_countResult _ outcome.label
  | results rs =>
    rw [take, countResults_eq, summary_add]
    rfl

theorem family_takeAll (m : Metrics) (tallies : List Tally) (f : Family) :
    (m.takeAll tallies).family f = (m.add (tallies.flatMap (·.additions))).family f := by
  suffices same : (m.takeAll tallies).series = (m.add (tallies.flatMap (·.additions))).series by
    rw [family, same]
    rfl
  -- The summary takes no part in what becomes of the counters.
  have counters {m n : Metrics} (same : m.series = n.series) (additions : List Addition) :
      (m.add additions).series = (n.add additions).series := by
    induction additions generalizing m n with
    | nil => exact same
    | cons a rest ih =>
      refine ih ?_
      simp only [count, family, same]
  induction tallies generalizing m with
  | nil => rfl
  | cons t rest ih =>
    rw [List.flatMap_cons, add_append, takeAll, List.foldl_cons]
    exact (ih (m.take t)).trans (counters (m.series_take t) _)

theorem summary_takeAll (m : Metrics) (tallies : List Tally) :
    (m.takeAll tallies).summary =
      tallies.foldl (fun s t => s + t.increment) m.summary := by
  induction tallies generalizing m with
  | nil => rfl
  | cons t rest ih =>
    rw [takeAll, List.foldl_cons, List.foldl_cons, ← summary_take]
    exact ih (m.take t)

theorem field_takeAll (m : Metrics) (tallies : List Tally) (field : MetricsSummary.Field) :
    field.value (m.takeAll tallies).summary =
      field.value m.summary + (tallies.map fun t => field.value t.increment).sum := by
  induction tallies generalizing m with
  | nil => rfl
  | cons t rest ih =>
    have first := congrArg field.value (m.summary_take t)
    rw [takeAll, List.foldl_cons, ← takeAll, ih, first, field.value_add, List.map_cons,
      List.sum_cons, Nat.add_assoc]

/-- Counters hold sums: what was there before, and all that was added. -/
theorem sumOf_takeAll (m : Metrics) (tallies : List Tally) (f : Family)
    (test : List String → Bool) :
    ((m.takeAll tallies).family f).sumOf test =
      (m.family f).sumOf test + (tallies.map fun t => sumTo f test t.additions).sum := by
  rw [family_takeAll, sumOf_addAll, sumTo_flatMap]

theorem count_takeAll (m : Metrics) (tallies : List Tally) (f : Family) (values : List String) :
    ((m.takeAll tallies).family f).count values =
      (m.family f).count values +
        (tallies.map fun t => sumTo f (· = values) t.additions).sum := by
  rw [Series.count, family_takeAll, get?_addAll, Series.getD_foldl_raise, ← sumTo, sumTo_flatMap]
  rfl

/-! ## Agreement -/

/-- What results add goes to one family. -/
theorem sumTo_reported {f : Family} (other : Family.processed.name ≠ f.name)
    (test : List String → Bool) (rs : List ReconciliationResult) :
    sumTo f test (Tally.results rs).additions = 0 := by
  rw [Tally.additions, sumTo_flatMap]
  refine List.sum_eq_zero fun n hn => ?_
  obtain ⟨r, -, rfl⟩ := List.mem_map.1 hn
  simp [sumTo, Tally.reported, goesTo, other]

/-- A transaction is counted with its result once, for an authority or for an action. -/
theorem sumTo_result (last : String) (t : Tally) :
    sumTo .transactions (endsIn last) t.additions + sumTo .actions (endsIn last) t.additions =
      if t.result? = some last then 1 else 0 := by
  cases t with
  | dispatched authority identities status =>
    by_cases same : status.label = last <;>
      simp [sumTo, Tally.additions, goesTo, endsIn, Tally.result?, Family.transactions,
        Family.dispatched, Family.actions, same]
  | acted action outcome =>
    by_cases same : outcome.label = last <;>
      simp [sumTo, Tally.additions, goesTo, endsIn, Tally.result?, Family.transactions,
        Family.actions, same]
  | results rs =>
    rw [sumTo_reported (by decide), sumTo_reported (by decide)]
    rfl
  | request route status => rfl
  | classified label => rfl
  | omitted reason => rfl

/-- A request is counted with its status once, for a route. -/
theorem sumTo_status (last : String) (t : Tally) :
    sumTo .requests (endsIn last) t.additions = if t.status? = some last then 1 else 0 := by
  cases t with
  | request route status =>
    by_cases same : status = last <;>
      simp [sumTo, Tally.additions, goesTo, endsIn, Tally.status?, same]
  | results rs => exact sumTo_reported (by decide) _ rs
  | classified label => rfl
  | omitted reason => rfl
  | dispatched authority identities status => rfl
  | acted action outcome => rfl

/-- A field of the summary and the counters of a family come to the same, if each count adds the
same to both. -/
theorem field_eq_sumOf (field : MetricsSummary.Field) {f : Family} {test : List String → Bool}
    (same : ∀ t : Tally, field.value t.increment = sumTo f test t.additions)
    (none : field.value start.summary = 0) (tallies : List Tally) :
    field.value (start.takeAll tallies).summary = ((start.takeAll tallies).family f).sumOf test := by
  have empty : (start.family f).sumOf test = 0 := rfl
  rw [field_takeAll, sumOf_takeAll, none, empty]
  simp only [same]

theorem field_eq_sumFor (field : MetricsSummary.Field) {result : String}
    (same : ∀ t : Tally, field.value t.increment = if t.result? = some result then 1 else 0)
    (none : field.value start.summary = 0) (tallies : List Tally) :
    field.value (start.takeAll tallies).summary =
      ((start.takeAll tallies).family .transactions).sumFor result +
        ((start.takeAll tallies).family .actions).sumFor result := by
  have empty (f : Family) : (start.family f).sumOf (endsIn result) = 0 := rfl
  unfold sumFor
  rw [field_takeAll, sumOf_takeAll, sumOf_takeAll, none, empty, empty]
  simp only [Nat.zero_add, same, ← List.sum_map_add, sumTo_result]

/-- The order in which things are counted leaves no trace. -/
theorem takeAll_perm {tallies others : List Tally} (perm : others.Perm tallies) (m : Metrics) :
    (m.takeAll others).summary = (m.takeAll tallies).summary ∧
      ∀ f values, ((m.takeAll others).family f).get? values =
        ((m.takeAll tallies).family f).get? values := by
  constructor
  · rw [summary_takeAll, summary_takeAll]
    exact perm.foldl_eq' (fun _ _ _ _ s => MetricsSummary.add_right_comm s _ _) _
  · intro f values
    have additions : (others.flatMap (·.additions)).Perm (tallies.flatMap (·.additions)) :=
      perm.flatMap_right _
    rw [family_takeAll, family_takeAll, get?_addAll, get?_addAll]
    exact ((additions.filter _).map _).foldl_eq' (fun _ _ _ _ n => raise_right_comm n _ _) _

end Metrics

end Registrar
