import Registrar.Double
import Registrar.Program
import Registrar.Table

/-! Counters with labels, the text that exposes them, and a summary kept beside them. -/
namespace Registrar
set_option autoImplicit false

/-! ## Families -/

structure Family where
  name : String
  help : String
  labels : List String
deriving DecidableEq, Repr

namespace Family

def classified : Family :=
  ⟨"regsync_identities_classified_total", "Identities classified by state", ["state"]⟩

def omitted : Family :=
  ⟨"regsync_identities_omitted_total", "Identities left out of results by reason", ["reason"]⟩

def processed : Family :=
  ⟨"regsync_registrations_processed_total",
    "Reported registration outcomes by authority and outcome", ["authority", "outcome"]⟩

def transactions : Family :=
  ⟨"regsync_transactions_total", "Batch transactions by authority and result",
    ["authority", "result"]⟩

def dispatched : Family :=
  ⟨"regsync_dispatched_identities_total", "Identities carried by batch transactions",
    ["authority"]⟩

def actions : Family :=
  ⟨"regsync_delegation_actions_total", "Claim and exit transactions by result",
    ["action", "result"]⟩

def requests : Family :=
  ⟨"regsync_http_requests_total", "HTTP requests by route and status", ["route", "status"]⟩

def all : List Family :=
  [actions, dispatched, requests, classified, omitted, processed, transactions]

end Family

/-- The counts of one family by label values. -/
abbrev Series := Table (List String) Nat

namespace Series

def count (s : Series) (values : List String) : Nat :=
  (s.get? values).getD 0

def add (s : Series) (values : List String) (n : Nat) : Series :=
  s.insert values (s.count values + n)

def total (s : Series) : Nat :=
  s.values.foldr (· + ·) 0

end Series

/-! ## Counters and summary -/

structure MetricsSummary where
  classified : Nat
  omitted : Nat
  confirmed : Nat
  failed : Nat
  unknown : Nat
  httpOk : Nat
  httpError : Nat
deriving DecidableEq, Repr

structure Metrics where
  series : Table String Series
  summary : MetricsSummary

namespace Metrics

def start : Metrics :=
  ⟨.empty, ⟨0, 0, 0, 0, 0, 0, 0⟩⟩

def family (m : Metrics) (f : Family) : Series :=
  (m.series.get? f.name).getD .empty

def count (m : Metrics) (f : Family) (values : List String) (n : Nat) : Metrics :=
  { m with series := m.series.insert f.name ((m.family f).add values n) }

def countResult (m : Metrics) (result : String) : Metrics :=
  { m with
    summary :=
      if result = "confirmed" then { m.summary with confirmed := m.summary.confirmed + 1 }
      else if result = "failed" then { m.summary with failed := m.summary.failed + 1 }
      else if result = "unknown" then { m.summary with unknown := m.summary.unknown + 1 }
      else m.summary }

def countRequest (m : Metrics) (route status : String) : Metrics :=
  let m := m.count .requests [route, status] 1
  { m with
    summary :=
      if status = "ok" then { m.summary with httpOk := m.summary.httpOk + 1 }
      else if status = "error" then { m.summary with httpError := m.summary.httpError + 1 }
      else m.summary }

def countClassified (m : Metrics) (label : String) : Metrics :=
  let m := m.count .classified [label] 1
  { m with summary := { m.summary with classified := m.summary.classified + 1 } }

def countOmitted (m : Metrics) (reason : String) : Metrics :=
  let m := m.count .omitted [reason] 1
  { m with summary := { m.summary with omitted := m.summary.omitted + 1 } }

def countDispatch (m : Metrics) (authority : Authority) (identities : Nat)
    (status : DispatchStatus) : Metrics :=
  ((m.count .transactions [authority.label, status.label] 1).count .dispatched [authority.label]
    identities).countResult status.label

def countAction (m : Metrics) (action : DelegationAction) (outcome : TransactionOutcome) :
    Metrics :=
  (m.count .actions [action.label, outcome.label] 1).countResult outcome.label

def observe (m : Metrics) : Event → Metrics
  | .classified _ state => m.countClassified state.label
  | .omitted _ reason => m.countOmitted reason.label
  | .dispatched authority identities status => m.countDispatch authority identities status
  | .acted action outcome => m.countAction action outcome

/-- Counts every reported identity once for each authority. -/
def countResults (m : Metrics) (results : List ReconciliationResult) : Metrics :=
  results.foldl
    (fun m r =>
      [Authority.registry, Authority.delegationLedger].foldl
        (fun m a => m.count .processed [a.label, (r.status a).label] 1) m)
    m

/-! ## Text -/

def escapeLabel (value : String) : String :=
  String.ofList
    (value.toList.flatMap fun c =>
      if c = '\\' then ['\\', '\\']
      else if c = '"' then ['\\', '"']
      else if c = '\n' then ['\\', 'n']
      else [c])

/-- Label values are ordered by their bytes, the first one first. -/
def valuesLe : List String → List String → Bool
  | [], _ => true
  | _ :: _, [] => false
  | a :: as, b :: bs =>
    match compare a b with
    | .lt => true
    | .gt => false
    | .eq => valuesLe as bs

/-- Counters have 64 bits and wrap; their text is that of the nearest double. -/
def exposed (n : Nat) : Nat :=
  Double.shortest (n % UInt64.size)

def seriesLine (f : Family) (values : List String) (n : Nat) : String :=
  let labels := (f.labels.zip values).map fun (l, v) => l ++ "=\"" ++ escapeLabel v ++ "\""
  f.name ++ "\x7b" ++ ",".intercalate labels ++ "\x7d " ++ toString (exposed n)

def familyLines (m : Metrics) (f : Family) : List String :=
  let rows := (m.family f).rows
  if rows.isEmpty then []
  else
    ("# HELP " ++ f.name ++ " " ++ f.help) :: ("# TYPE " ++ f.name ++ " counter")
      :: (rows.mergeSort fun a b => valuesLe a.1 b.1).map fun (values, n) => seriesLine f values n

def lines (m : Metrics) : List String :=
  Family.all.flatMap m.familyLines

def text (m : Metrics) : String :=
  String.join (m.lines.map (· ++ "\n"))

end Metrics

end Registrar
