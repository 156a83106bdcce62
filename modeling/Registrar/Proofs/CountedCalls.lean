import Registrar.Http.Service
import Registrar.Proofs.Counters
import Registrar.Proofs.ListFile
import Registrar.Proofs.Sending
import Registrar.Proofs.Soundness

/-! What is counted while calls are served, beside what they return: the batches are counted as they
are sent, and the results only when the call has ended. Both come to the same. -/
namespace Registrar
set_option autoImplicit false

open Program

/-! ## What the observer is told -/

/-- What the metrics take from an event. -/
def Event.tally : Event → Tally
  | classified _ state => .classified state.label
  | omitted _ reason => .omitted reason.label
  | dispatched authority identities status => .dispatched authority identities status
  | acted action outcome => .acted action outcome

def Exchange.event? (x : Exchange) : Option Event :=
  match x.question with
  | .observe event => some event
  | _ => none

def events (t : List Exchange) : List Event :=
  t.filterMap (·.event?)

theorem events_append (t u : List Exchange) : events (t ++ u) = events t ++ events u :=
  List.filterMap_append

theorem question_of_mem_events {t : List Exchange} {event : Event} (h : event ∈ events t) :
    ∃ x ∈ t, x.question = .observe event := by
  obtain ⟨x, hx, told⟩ := List.mem_filterMap.1 h
  refine ⟨x, hx, ?_⟩
  unfold Exchange.event? at told
  split at told
  · rename_i question
    rw [question, Option.some.inj told]
  · cases told

namespace Metrics

theorem observe_eq (m : Metrics) (event : Event) : m.observe event = m.take event.tally := by
  cases event <;> rfl

def watch (m : Metrics) (t : List Exchange) : Metrics :=
  (events t).foldl observe m

theorem watch_eq (m : Metrics) (t : List Exchange) :
    m.watch t = m.takeAll ((events t).map (·.tally)) := by
  rw [watch, takeAll, List.foldl_map]
  exact congrArg (fun f => (events t).foldl f m) (funext₂ observe_eq)

end Metrics

/-! ## Identities of batches -/

/-- How many identities the event reports as carried to the authority. -/
def Event.carriedTo (a : Authority) : Event → Nat
  | dispatched b n _ => if b = a then n else 0
  | _ => 0

def carriedTo (a : Authority) (t : List Exchange) : Nat :=
  ((events t).map (·.carriedTo a)).sum

theorem carriedTo_append (a : Authority) (t u : List Exchange) :
    carriedTo a (t ++ u) = carriedTo a t + carriedTo a u := by
  rw [carriedTo, events_append, List.map_append, List.sum_append]
  rfl

theorem carriedTo_of_unreported {t : List Exchange}
    (h : ∀ x ∈ t, ∀ b n status, x.question ≠ .observe (.dispatched b n status)) (a : Authority) :
    carriedTo a t = 0 := by
  refine List.sum_eq_zero fun n hn => ?_
  obtain ⟨event, he, rfl⟩ := List.mem_map.1 hn
  obtain ⟨x, hx, question⟩ := question_of_mem_events he
  cases event with
  | dispatched b n status => exact absurd question (h x hx b n status)
  | _ => rfl

theorem Dispatcher.Carried.carriedTo {d : Dispatcher} {plan : Plan} {a b : Authority}
    {t : List Exchange} {attempt : Option TxAttempt} (h : Carried d plan b t attempt) :
    carriedTo a t = if b = a then (plan.keys b).length else 0 := by
  cases h with
  | nothing none =>
    rw [none]
    exact (ite_self 0).symm
  | attempted target t attempt some htarget ha =>
    have inside : Registrar.carriedTo a t = 0 :=
      carriedTo_of_unreported (fun x hx c n status reported => by
        have sends := ha.sends x hx
        rw [reported] at sends
        cases sends) a
    rw [carriedTo_append, inside, Nat.zero_add]
    exact Nat.add_zero _

/-- Of distinct items, as many are among some of them as there are of these. -/
theorem countP_mem_of_sublist {α : Type} [DecidableEq α] {some all : List α}
    (sublist : some.Sublist all) (nodup : all.Nodup) :
    all.countP (fun item => decide (item ∈ some)) = some.length := by
  rw [List.countP_eq_length_filter]
  refine (List.perm_ext_iff_of_nodup (nodup.filter _) (sublist.nodup nodup)).2 (fun item => ?_)
    |>.length_eq
  rw [List.mem_filter, decide_eq_true_iff]
  exact and_iff_right_of_imp fun h => sublist.subset h

namespace Engine

variable {e : Engine} {exclusions : ExclusionTable}

theorem FinishedRun.carriedTo (run : FinishedRun e exclusions) (a : Authority) :
    carriedTo a run.exchanges = (run.plan.keys a).length := by
  obtain ⟨part, attempt, sending, carried, -⟩ := Dispatcher.dispatch_carried run.finishes
  rw [run.exchanges_eq, sending, carriedTo_append, carriedTo_append,
    carriedTo_of_unreported fun x hx => (run.opening_calm x hx).2,
    (carried .registry).carriedTo, (carried .delegationLedger).carriedTo]
  cases a with
  | registry => exact Nat.zero_add _
  | delegationLedger => exact (Nat.zero_add _).trans (Nat.zero_add _)

/-- The results that tell of an attempt are those of the identities in the batch. -/
theorem FinishedRun.countP_attempted (run : FinishedRun e exclusions)
    (nodup : (run.chunk.map (·.pubkey)).Nodup) (a : Authority) :
    run.final.results.countP (fun r => (r.status a).isAttempted) = (run.plan.keys a).length := by
  obtain ⟨part, attempt, -, -, sound⟩ := run.sound nodup
  have same : run.final.results.map (·.pubkey) = run.plan.results.map (·.pubkey) :=
    Dispatcher.dispatch_map_pubkey run.finishes
  have rows : (run.plan.keys a).Sublist (run.final.results.map (·.pubkey)) :=
    same ▸ Reconciler.keys_sublist_results run.plans a
  calc run.final.results.countP (fun r => (r.status a).isAttempted)
      = run.final.results.countP (fun r => decide (r.pubkey ∈ run.plan.keys a)) :=
        List.countP_congr fun r hr => by
          rw [(sound r hr).attempted a, decide_eq_true_iff]
    _ = (run.final.results.map (·.pubkey)).countP fun k => decide (k ∈ run.plan.keys a) := by
        rw [List.countP_map]
        rfl
    _ = (run.plan.keys a).length :=
        countP_mem_of_sublist rows (run.accounts.sublist.nodup nodup)

/-- What a call reports of its batches while it sends them is what its results tell of them. -/
theorem processRegistrations_carriedTo {intents : List SignedRegistration} {t : List Exchange}
    {results : List ReconciliationResult}
    (h : (e.processRegistrations intents).Yields t (.ok results)) (a : Authority) :
    carriedTo a t = results.countP fun r => (r.status a).isAttempted := by
  obtain ⟨rfl, rfl, rfl⟩ | ⟨exclusions, runs, hruns, rfl, rfl⟩ := processRegistrations_yields h
  · rfl
  have nodup : ∀ run ∈ runs, (run.chunk.map (·.pubkey)).Nodup := fun run hrun =>
    nodup_of_mem_chunksOf (hruns ▸ List.mem_map_of_mem hrun)
  have sent : carriedTo a (runs.flatMap (·.exchanges)) =
      (runs.flatMap (·.final.results)).countP fun r => (r.status a).isAttempted := by
    clear h hruns
    induction runs with
    | nil => rfl
    | cons run rest ih =>
      obtain ⟨first, others⟩ := List.forall_mem_cons.1 nodup
      rw [List.flatMap_cons, List.flatMap_cons, carriedTo_append, List.countP_append, ih others,
        run.carriedTo, run.countP_attempted first]
  rw [← sent, ← List.cons_append, ← List.cons_append, carriedTo_append]
  exact Nat.add_zero _

end Engine

/-! ## Identities left out -/

def Event.omitted? : Event → Option PublicKey
  | omitted k _ => some k
  | _ => none

def omittedKeys (t : List Exchange) : List PublicKey :=
  (events t).filterMap (·.omitted?)

theorem count_omittedKeys (k : PublicKey) (t : List Exchange) :
    (omittedKeys t).count k = omissions k t := by
  have same (x : Exchange) :
      (x.event?.bind (·.omitted?) == some k) = true ↔ x.omits k = true := by
    obtain ⟨question, answer⟩ := x
    cases question with
    | observe event => cases event <;> simp [Exchange.event?, Event.omitted?, Exchange.omits]
    | _ => simp [Exchange.event?, Exchange.omits]
  rw [omittedKeys, events, List.filterMap_filterMap, List.count_filterMap, omissions]
  exact List.countP_congr fun x _ => same x

/-- The identities left and those reported as omitted are together those given. -/
theorem Accounts.length {t : List Exchange} {given left : List PublicKey}
    (h : Accounts t given left) : (omittedKeys t).length + left.length = given.length := by
  have perm : (omittedKeys t ++ left).Perm given := List.perm_iff_count.2 fun k => by
    rw [List.count_append, count_omittedKeys, h.balance]
  rw [← List.length_append, perm.length_eq]

/-- Ones for the items that pass a test add up to how many these are. -/
theorem sum_map_ite {α : Type} (test : α → Prop) [DecidablePred test] (items : List α) :
    (items.map fun item => if test item then 1 else 0).sum =
      items.countP fun item => decide (test item) := by
  induction items with
  | nil => rfl
  | cons item rest ih =>
    rw [List.map_cons, List.sum_cons, ih, List.countP_cons, Nat.add_comm]
    simp only [decide_eq_true_eq]

/-! ## Calls over HTTP -/

namespace Http

/-- A body is read when it is the text of a value, its type is announced, and it is not too long. -/
theorem Request.value_text {α : Type} {r : Request} {limit room : Nat} {decode : Json.Decoder α}
    {v : Json} {a : α} (announced : r.contentType.any announcesJson = true)
    (short : r.body.length ≤ limit) (body : r.body = Text.utf8 v.render)
    (printable : Json.Printable room v) (deep : room ≤ Json.depthLimit)
    (decoded : decode v = .ok a) : r.value limit decode = .ok a := by
  have text : String.fromUTF8? ⟨r.body.toArray⟩ = some v.text :=
    body ▸ textOfBytes?_utf8 v.render
  rw [value, announced, text]
  dsimp only
  rw [Json.first_text printable deep, decoded, if_neg (Nat.not_lt.2 short)]
  rfl

/-- A request for registrations whose intents are read and whose call gives results. -/
structure ServedCall (s : Service) where
  request : Request
  intents : List SignedRegistration
  exchanges : List Exchange
  results : List ReconciliationResult
  reads : request.value s.bodyLimit (Json.asList SignedRegistration.ofJson) = .ok intents
  serves : (s.handle request .registrations).Yields exchanges (.registrations (.ok results))

/-! ### A sample -/

def sampleRequest : Request where
  method := "POST"
  target := "/api/v1/registrations"
  contentType := some "application/json"
  body := Text.utf8 (Json.array (Engine.sampleIntents.map (·.toJson))).render

def sampleService : Service :=
  ⟨Engine.freshEngine, sampleRequest.body.length⟩

theorem value_sampleRequest :
    sampleRequest.value sampleService.bodyLimit (Json.asList SignedRegistration.ofJson) =
      .ok Engine.sampleIntents := by
  have printable : Json.Printable 3 (.array (Engine.sampleIntents.map (·.toJson))) :=
    .array _ (List.forall_mem_map.2 fun r _ => r.printable)
  exact Request.value_text (by decide) (Nat.le_refl _) rfl printable (by decide)
    (Json.asList_map (fun r => r.reads (.same _)) _)

theorem distinct_sampleIntents : (Engine.sampleIntents.map (·.pubkey)).eraseDups.length = 2 := by
  decide

theorem length_sampleFinal (hash : Word) : (Engine.sampleFinal hash).results.length = 1 := rfl

theorem countP_sampleFinal (hash : Word) :
    (Engine.sampleFinal hash).results.countP (fun r => (r.status .registry).isAttempted) = 1 :=
  rfl

/-- A call that gives results for the intents of a request. -/
def ServedCall.ofYields {s : Service} {request : Request} {intents : List SignedRegistration}
    {t : List Exchange} {results : List ReconciliationResult}
    (reads : request.value s.bodyLimit (Json.asList SignedRegistration.ofJson) = .ok intents)
    (processes : (s.engine.processRegistrations intents).Yields t (.ok results)) :
    ServedCall s where
  request := request
  intents := intents
  exchanges := t
  results := results
  reads := reads
  serves := by
    unfold Service.handle
    rw [reads]
    exact yields_monad_bind.2 ⟨t, [], _, (List.append_nil t).symm, processes, rfl, rfl⟩

def sampleServed {raw : Bytes} (signed : Engine.sampleCall.sign? Gateway.sampleKey = some raw) :
    ServedCall sampleService :=
  .ofYields value_sampleRequest <|
    yields_transcript (Gateway.takingNode false) _ []
      (congrArg Prod.fst (Engine.run_processRegistrations_sample signed))

/-! ### Counting a call -/

namespace ServedCall

open Addition

variable {s : Service}

/-- Counts the call: the engine is observed while it runs, and its results are counted when it has
ended. -/
def count (call : ServedCall s) (m : Metrics) : Metrics :=
  Served.count (m.watch call.exchanges) (.registrations (.ok call.results))

def tallies (call : ServedCall s) : List Tally :=
  (events call.exchanges).map (·.tally) ++
    [.request (Route.label .registrations) "ok", .results call.results]

theorem count_eq (call : ServedCall s) (m : Metrics) : call.count m = m.takeAll call.tallies := by
  rw [tallies, Metrics.takeAll, List.foldl_append, count, Metrics.watch_eq]
  rfl

theorem foldl_count (calls : List (ServedCall s)) (m : Metrics) :
    calls.foldl (fun m call => call.count m) m = m.takeAll (calls.flatMap tallies) := by
  induction calls generalizing m with
  | nil => rfl
  | cons call rest ih =>
    rw [List.foldl_cons, ih, call.count_eq, List.flatMap_cons, Metrics.takeAll, Metrics.takeAll,
      Metrics.takeAll, List.foldl_append]

theorem processes (call : ServedCall s) :
    (s.engine.processRegistrations call.intents).Yields call.exchanges (.ok call.results) := by
  have serves := call.serves
  unfold Service.handle at serves
  rw [call.reads] at serves
  obtain ⟨t, u, r, split, processes, rfl, same⟩ := yields_monad_bind.1 serves
  cases same
  rwa [split, List.append_nil]

/-! ### What one call adds -/

theorem sum_tallies (call : ServedCall s) (amount : Tally → Nat) :
    (call.tallies.map amount).sum =
      ((events call.exchanges).map fun event => amount event.tally).sum +
        (amount (.request (Route.label .registrations) "ok") + amount (.results call.results)) := by
  rw [tallies, List.map_append, List.map_map, List.sum_append]
  rfl

theorem sumTo_dispatched (call : ServedCall s) (a : Authority) :
    (call.tallies.map fun t => sumTo .dispatched (· = [a.label]) t.additions).sum =
      call.results.countP fun r => (r.status a).isAttempted := by
  have reported (event : Event) :
      sumTo .dispatched (· = [a.label]) event.tally.additions = event.carriedTo a := by
    cases event with
    | dispatched b n status =>
      cases a <;> cases b <;>
        simp [Event.tally, Tally.additions, sumTo, goesTo, Family.dispatched, Family.transactions,
          Event.carriedTo, Authority.label]
    | _ => rfl
  rw [sum_tallies, Metrics.sumTo_reported (by decide)]
  simp only [reported]
  exact s.engine.processRegistrations_carriedTo call.processes a

/-- The counters of reported outcomes are raised by the results alone. -/
theorem sumTo_processed (call : ServedCall s) (a : Authority) (label : String) :
    (call.tallies.map fun t => sumTo .processed (· = [a.label, label]) t.additions).sum =
      call.results.countP fun r => (r.status a).label = label := by
  have observed (event : Event) :
      sumTo .processed (· = [a.label, label]) event.tally.additions = 0 := by
    cases event <;> rfl
  have reported (r : ReconciliationResult) :
      sumTo .processed (· = [a.label, label]) (Tally.reported r) =
        if (r.status a).label = label then 1 else 0 := by
    by_cases same : (r.status a).label = label <;> cases a <;>
      simp [Tally.reported, sumTo, goesTo, Authority.label, same]
  rw [sum_tallies, Tally.additions, Tally.additions, sumTo_flatMap, ← sum_map_ite]
  simp only [observed, reported]
  rw [List.map_const', List.sum_replicate_nat, Nat.mul_zero, Nat.zero_add]
  exact Nat.zero_add _

theorem omitted_add (call : ServedCall s) :
    (call.tallies.map fun t => t.increment.omitted).sum + call.results.length =
      (call.intents.map (·.pubkey)).eraseDups.length := by
  have omitted (event : Event) :
      event.tally.increment.omitted = if event.omitted?.isSome then 1 else 0 := by
    cases event <;> rfl
  have accounts := (Engine.processRegistrations_accounts call.processes).length
  rw [List.length_map, omittedKeys, List.length_filterMap_eq_countP] at accounts
  rw [sum_tallies]
  simp only [omitted, sum_map_ite, Bool.decide_eq_true]
  exact accounts

/-! ### Whole sequences -/

theorem sum_flatMap_tallies (calls : List (ServedCall s)) (amount : Tally → Nat) :
    ((calls.flatMap tallies).map amount).sum =
      (calls.map fun call => (call.tallies.map amount).sum).sum := by
  rw [List.map_flatMap, List.flatMap, List.sum_flatten, List.map_map]
  rfl

/-- An attempt is reported as confirmed, failed or unknown. -/
theorem countP_attempted (results : List ReconciliationResult) (a : Authority) :
    results.countP (fun r => (r.status a).isAttempted) =
      results.countP (fun r => (r.status a).label = "confirmed") +
        results.countP (fun r => (r.status a).label = "failed") +
        results.countP fun r => (r.status a).label = "unknown" := by
  induction results with
  | nil => rfl
  | cons r rest ih =>
    rw [List.countP_cons, List.countP_cons, List.countP_cons, List.countP_cons, ih]
    cases r.status a <;> simp +decide [DispatchStatus.isAttempted, DispatchStatus.label] <;> omega

/-- After any sequence of calls that were served and gave results, the identities that were counted
as carried to an authority are those that were reported to be confirmed, failed or unknown there:
both counts are the number of results with such a status. The identities that were left out and the
results together are the distinct identities of the calls. -/
theorem counts_agree (s : Service) (calls : List (ServedCall s)) :
    let m := calls.foldl (fun m call => call.count m) .start
    (∀ a : Authority,
      (m.family .dispatched).count [a.label] =
        (m.family .processed).count [a.label, "confirmed"] +
          (m.family .processed).count [a.label, "failed"] +
          (m.family .processed).count [a.label, "unknown"] ∧
      (m.family .dispatched).count [a.label] =
        (calls.map fun call =>
          call.results.countP fun r => (r.status a).isAttempted).sum) ∧
    m.summary.omitted + (calls.map fun call => call.results.length).sum =
      (calls.map fun call => (call.intents.map (·.pubkey)).eraseDups.length).sum := by
  intro m
  have counted : m = Metrics.start.takeAll (calls.flatMap tallies) := foldl_count calls .start
  have none (f : Family) (values : List String) : (Metrics.start.family f).count values = 0 := rfl
  have carried (a : Authority) : (m.family .dispatched).count [a.label] =
      (calls.map fun call => call.results.countP fun r => (r.status a).isAttempted).sum := by
    rw [counted, Metrics.count_takeAll, none, Nat.zero_add, sum_flatMap_tallies]
    simp only [sumTo_dispatched]
  have reported (a : Authority) (label : String) :
      (m.family .processed).count [a.label, label] =
        (calls.map fun call => call.results.countP fun r => (r.status a).label = label).sum := by
    rw [counted, Metrics.count_takeAll, none, Nat.zero_add, sum_flatMap_tallies]
    simp only [sumTo_processed]
  refine ⟨fun a => ⟨?_, carried a⟩, ?_⟩
  · rw [carried, reported, reported, reported, ← List.sum_map_add, ← List.sum_map_add]
    simp only [countP_attempted]
  · have omitted : m.summary.omitted =
        (calls.map fun call => (call.tallies.map fun t => t.increment.omitted).sum).sum := by
      have sum := Metrics.start.field_takeAll (calls.flatMap tallies) .omitted
      rw [← counted, sum_flatMap_tallies] at sum
      exact sum.trans (Nat.zero_add _)
    rw [omitted, ← List.sum_map_add]
    simp only [omitted_add]

/-- The sample call served twice: each time one identity is carried to the registry, without a
receipt in time, and the other one is left out. -/
theorem counts_agree_sample :
    ∃ call : ServedCall sampleService,
      let m := [call, call].foldl (fun m call => call.count m) .start
      (m.family .dispatched).count [Authority.registry.label] = 2 ∧
      (m.family .processed).count [Authority.registry.label, "confirmed"] +
        (m.family .processed).count [Authority.registry.label, "failed"] +
        (m.family .processed).count [Authority.registry.label, "unknown"] = 2 ∧
      m.summary.omitted = 2 := by
  obtain ⟨raw, signed⟩ := Engine.sampleCall_signed
  have one : (sampleServed signed).results.countP (fun r => (r.status .registry).isAttempted) = 1 :=
    countP_sampleFinal _
  have returned : (sampleServed signed).results.length = 1 := length_sampleFinal _
  have given : ((sampleServed signed).intents.map (·.pubkey)).eraseDups.length = 2 :=
    distinct_sampleIntents
  obtain ⟨each, balance⟩ := counts_agree sampleService [sampleServed signed, sampleServed signed]
  obtain ⟨agree, carried⟩ := each .registry
  simp only [List.map_cons, List.map_nil, List.sum_cons, List.sum_nil, one] at carried
  simp only [List.map_cons, List.map_nil, List.sum_cons, List.sum_nil, returned, given] at balance
  exact ⟨sampleServed signed, carried, agree.symm.trans carried, by omega⟩

end ServedCall

end Http

end Registrar
