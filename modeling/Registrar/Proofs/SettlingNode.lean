import Registrar.Proofs.Applying
import Registrar.Proofs.Ending
import Registrar.Proofs.Signers

/-! A node that applies each transaction as soon as it is broadcast. It shows by its answers to
look-ups what it holds, and has a receipt of success for whatever was sent. -/
namespace Registrar
set_option autoImplicit false

open Program Contract

/-! ## Look-ups -/

/-- The look-up that call data asks for. -/
def lookedUp? (data : Bytes) : Option (Authority × PublicKey) :=
  match Registry.lookup.arguments? data, Ledger.lookup.arguments? data with
  | some [.bytes key], _ => (FixedBytes.ofBytes? key).map (Authority.registry, ·)
  | _, some [.bytes key] => (FixedBytes.ofBytes? key).map (Authority.delegationLedger, ·)
  | _, _ => none

theorem length_call_bytes_le (f : Abi.Function) (k : PublicKey) :
    (f.call [.bytes k.bytes]).length ≤ 147 := by
  have padded := Abi.length_padded_le k.bytes
  rw [Abi.Function.call, Abi.encodeAll, List.length_append, f.length_selector, Abi.length_layout]
  simp only [List.map_cons, List.map_nil, List.sum_cons, List.sum_nil, Abi.Value.isDynamic,
    Abi.Value.encode, List.length_append, Abi.length_wordOf, FixedBytes.length_bytes, if_true]
    at padded ⊢
  omega

theorem length_encodeStatusLookup_le (a : Authority) (k : PublicKey) :
    (encodeStatusLookup a k).length ≤ 147 := by
  cases a <;> exact length_call_bytes_le _ k

theorem lookedUp?_encodeStatusLookup (a : Authority) (k : PublicKey) :
    lookedUp? (encodeStatusLookup a k) = some (a, k) := by
  have short (f : Abi.Function) : (f.call [.bytes k.bytes]).length < 2 ^ 256 :=
    Nat.lt_of_le_of_lt (length_call_bytes_le f k) (by decide)
  have ne : Registry.lookup.selector ≠ Ledger.lookup.selector := by decide +kernel
  cases a with
  | registry =>
    rw [lookedUp?, encodeStatusLookup, Registry.encodeLookup,
      Abi.Function.arguments?_call rfl rfl (short _)]
    simp
  | delegationLedger =>
    rw [lookedUp?, encodeStatusLookup, Ledger.encodeLookup,
      Abi.Function.arguments?_call_of_ne ne.symm, Abi.Function.arguments?_call rfl rfl (short _)]
    simp

namespace Holdings

def answer (c : Holdings) (call : Multicall.Call) : Multicall.Answer :=
  match lookedUp? call.data with
  | some (.registry, k) => ⟨true, (c.registry k).encode⟩
  | some (.delegationLedger, k) => ⟨true, (c.ledger k).encode⟩
  | none => ⟨false, []⟩

theorem shows_answer (c : Holdings) (target : Address) (a : Authority) (k : PublicKey) :
    c.Shows a k (c.answer (lookupCall target a k)) := by
  rw [answer, lookupCall, lookedUp?_encodeStatusLookup]
  cases a with
  | registry => exact ⟨rfl, Registry.ProposerInfo.decode?_encode _⟩
  | delegationLedger => exact ⟨rfl, Ledger.DelegationInfo.decode?_encode _⟩

theorem length_answer_le (c : Holdings) (call : Multicall.Call) :
    (c.answer call).data.length ≤ 96 := by
  unfold answer
  split
  · exact Nat.le_of_eq (Registry.ProposerInfo.length_encode _)
  · exact Nat.le_of_eq (Ledger.DelegationInfo.length_encode _)
  · exact Nat.zero_le _

def oversized : Error :=
  .nodeRpc "eth_call" "response size exceeded"

/-- The reply to an aggregate. What is too long for its length to be told is refused for its size,
and so is an aggregate whose answers would be. -/
@[irreducible] def reply (c : Holdings) (data : Bytes) : Except Error Bytes :=
  if data.length < 2 ^ 64 then
    match Multicall.decode? data with
    | none => .error (.nodeRpc "eth_call" "execution reverted")
    | some calls =>
      let raw := Multicall.encodeAnswers (calls.map c.answer)
      if raw.length < 2 ^ 64 then .ok raw else .error oversized
  else .error oversized

/-- A reply is refused for its size, and never for one identity, or answers each look-up. -/
theorem reply_pointwise (c : Holdings) (target : Address) (a : Authority) (keys : List PublicKey) :
    AggregateRead.Pointwise target a c.answer
        ⟨keys, c.reply (Multicall.encode (keys.map (lookupCall target a)))⟩ ∧
      (keys.length = 1 →
        ∃ raw, c.reply (Multicall.encode (keys.map (lookupCall target a))) = .ok raw) := by
  have refusal : oversized.isSizeLimit = true := by decide +kernel
  have calls : ∀ call ∈ keys.map (lookupCall target a), call.data.length ≤ 147 :=
    List.forall_mem_map.2 fun k _ => length_encodeStatusLookup_le a k
  have asked := Multicall.length_encode_le calls
  have answers : ∀ answer ∈ (keys.map (lookupCall target a)).map c.answer,
      answer.data.length ≤ 96 := List.forall_mem_map.2 fun call _ => c.length_answer_le call
  have answered := Multicall.length_encodeAnswers_le answers
  rw [List.length_map] at asked
  rw [List.length_map, List.length_map] at answered
  rw [reply]
  by_cases short : (Multicall.encode (keys.map (lookupCall target a))).length < 2 ^ 64
  · rw [if_pos short, Multicall.decode?_encode (Nat.lt_trans short (by decide))]
    dsimp only
    by_cases fits :
        (Multicall.encodeAnswers ((keys.map (lookupCall target a)).map c.answer)).length < 2 ^ 64
    · rw [if_pos fits]
      refine ⟨.inr ⟨_, rfl, ?_⟩, fun _ => ⟨_, rfl⟩⟩
      rw [Multicall.decodeAnswers?_encodeAnswers (Nat.lt_trans fits (by decide)), List.map_map]
      rfl
    · rw [if_neg fits]
      exact ⟨.inl ⟨_, rfl, refusal⟩, fun single => absurd (by omega) fits⟩
  · rw [if_neg short]
    exact ⟨.inl ⟨_, rfl, refusal⟩, fun single => absurd (by omega) short⟩

/-- One look-up is always replied to. -/
theorem exists_reply (c : Holdings) (target : Address) (a : Authority) (k : PublicKey) :
    ∃ reply, c.reply (Multicall.encode [lookupCall target a k]) = .ok reply ∧
      Multicall.decodeAnswers? reply = some [c.answer (lookupCall target a k)] := by
  have single := c.reply_pointwise target a [k]
  rw [List.map_singleton] at single
  obtain ⟨⟨err, refused, -⟩ | ⟨reply, answered, decoded⟩, replied⟩ := single
  · obtain ⟨reply, answered⟩ := replied rfl
    cases answered.symm.trans refused
  · exact ⟨reply, answered, decoded⟩

theorem shows_of_pointwise {c : Holdings} {target : Address} {a : Authority} {read : AggregateRead}
    {answers : List Multicall.Answer} (pointwise : read.Pointwise target a c.answer)
    (outcome : read.outcome = .ok answers) : List.Forall₂ (c.Shows a) read.keys answers := by
  obtain ⟨e, -, refused, -⟩ | told := pointwise.outcome_cases
  · cases refused.symm.trans outcome
  · cases told.symm.trans outcome
    rw [List.forall₂_map_right_iff, List.forall₂_same]
    exact fun k _ => c.shows_answer target a k

end Holdings

/-! ## The node -/

/-- The receipt for a transaction that was broadcast. -/
def receiptFor (t : List Exchange) (hash : Word) : Option Receipt :=
  if (broadcasts t).any fun raw => Transaction.hashRaw raw = hash then some ⟨true, some 1⟩ else none

theorem receiptFor_of_mem {t : List Exchange} {raw : Bytes} (h : raw ∈ broadcasts t) :
    receiptFor t (Transaction.hashRaw raw) = some ⟨true, some 1⟩ :=
  if_pos (List.any_eq_true.2 ⟨raw, h, decide_eq_true rfl⟩)

namespace Engine

/-- A node that applies each transaction as soon as it is broadcast, and then has a receipt for it. -/
def settlingNode (e : Engine) (initial : Holdings) (t : List Exchange) : (q : Ask) → q.Answer
  | .node (.call _ data) => (e.settleAll initial (broadcasts t)).reply data
  | .node (.pendingNonce _) => .ok (UInt64.ofNat (broadcasts t).length)
  | .node (.receipt hash) => .ok (receiptFor t hash)
  | q => (Gateway.takingNode false q []).1

theorem settlingNode_call (e : Engine) (initial : Holdings) (t : List Exchange)
    (target : Address) (data : Bytes) :
    e.settlingNode initial t (.node (.call target data)) =
      (e.settleAll initial (broadcasts t)).reply data := rfl

variable {e : Engine} {initial : Holdings} {reader : StatusReader} {t : List Exchange}

theorem settlingNode_pointwise (answered : AnsweredBy (e.settlingNode initial) t) {a : Authority}
    {target : Address} {u v : List Exchange} {read : AggregateRead}
    (split : t = u ++ read.exchange reader.gateway.settings.multicall target a :: v) :
    read.Pointwise target a (e.settleAll initial (broadcasts u)).answer ∧
      (read.keys.length = 1 → ∃ raw, read.answer = .ok raw) := by
  obtain ⟨keys, answer⟩ := read
  have told := answered u _ v split
  rw [AggregateRead.exchange, settlingNode_call] at told
  dsimp only at told
  rw [told]
  exact Holdings.reply_pointwise ..

theorem applying_settlingNode (answered : AnsweredBy (e.settlingNode initial) t)
    (reader : StatusReader) : e.Applying reader initial broadcasts t where
  grows u x _ := by
    rw [broadcasts_append]
    exact List.prefix_append ..
  sent u _ := List.Subset.refl _
  confirmed u x raw _ hraw _ := by
    rw [broadcasts_append]
    exact List.mem_append_left _ hraw
  mirrors a target u read v answers _ split outcome :=
    Holdings.shows_of_pointwise (settlingNode_pointwise answered split).1 outcome

theorem served_settlingNode (answered : AnsweredBy (e.settlingNode initial) t)
    (reader : StatusReader) : reader.Served t := by
  intro a target read _ hx
  obtain ⟨u, v, split⟩ := List.append_of_mem hx
  obtain ⟨pointwise, single⟩ := settlingNode_pointwise answered split
  exact pointwise.not_fails single

/-- The signers of this node: the remote one holds no keys, and neither of them signs. -/
def absentSigners : Signers where
  listing := .ok []
  sign _ := .error (.remoteSigner "sign" "absent")
  authorize _ _ := .error (.secondarySignature "" "absent")

theorem exists_settlingNode (answered : AnsweredBy (e.settlingNode initial) t) (q : Ask)
    {answer : q.Answer} (h : ⟨q, answer⟩ ∈ t) : ∃ u, answer = e.settlingNode initial u q := by
  obtain ⟨u, v, split⟩ := List.append_of_mem h
  exact ⟨u, answered u _ v split⟩

theorem answer_settlingNode (answered : AnsweredBy (e.settlingNode initial) t) :
    absentSigners.Answer t := by
  constructor
  · intro answer hx
    obtain ⟨u, same⟩ := exists_settlingNode answered .listKeys hx
    exact same
  · intro m answer hx
    obtain ⟨u, same⟩ := exists_settlingNode answered (.signRegistration m) hx
    exact same
  · intro r representative answer hx
    obtain ⟨u, same⟩ := exists_settlingNode answered (.authorize r representative) hx
    exact same

theorem exclusions_settlingNode (answered : AnsweredBy (e.settlingNode initial) t)
    (exclusions : ExclusionTable) (h : ⟨.exclusions, exclusions⟩ ∈ t) :
    exclusions = Gateway.sampleExclusions := by
  obtain ⟨u, same⟩ := exists_settlingNode answered .exclusions h
  exact same

theorem RangeQueue.ofLength_one (size : Nat) : RangeQueue.ofLength 1 size = ⟨[⟨0, 1⟩]⟩ := by
  have width_pos : 0 < Nat.max size 1 := Nat.le_max_right ..
  rw [RangeQueue.ofLength, chunkRanges]
  generalize Nat.max size 1 = width at width_pos
  have one : (1 + width - 1) / width = 1 := by
    rw [Nat.add_sub_cancel_left, Nat.div_self width_pos]
  have stop : Nat.min (0 + width) 1 = 1 := by
    rw [Nat.zero_add]
    exact Nat.min_eq_right width_pos
  simp only [one, List.range_one, List.map_singleton, Nat.zero_mul, stop]

/-- A reading of one identity asks for its look-up alone. -/
theorem batchStatus_yields_single {target : Address} {a : Authority} {k : PublicKey} {reply : Bytes}
    {answer : Multicall.Answer} (htarget : reader.target a = .ok target)
    (decoded : Multicall.decodeAnswers? reply = some [answer]) :
    (reader.batchStatus [k] a).Yields
      [AggregateRead.exchange reader.gateway.settings.multicall target a ⟨[k], .ok reply⟩]
      (.ok (Table.empty.insert k (statusOfAnswer a answer))) := by
  rw [StatusReader.batchStatus, if_neg (by simp), htarget]
  dsimp only [List.length_singleton]
  rw [RangeQueue.ofLength_one, StatusReader.serve]
  refine yields_bind.2 ⟨_, [], .ok [answer], (List.append_nil _).symm, ?_, ?_⟩
  · refine ⟨.ok reply, [], rfl, ?_⟩
    simp only [Program.bind]
    rw [decoded]
    exact ⟨rfl, rfl⟩
  · dsimp only
    rw [StatusReader.serve]
    exact ⟨rfl, rfl⟩

/-- There is nothing to halve in it, and it fails when its aggregate does. -/
theorem batchStatus_yields_refused {target : Address} {a : Authority} (k : PublicKey) (err : Error)
    (htarget : reader.target a = .ok target) :
    (reader.batchStatus [k] a).Yields
      [AggregateRead.exchange reader.gateway.settings.multicall target a ⟨[k], .error err⟩]
      (.error (.statusReadFailed a.label err.text)) := by
  have whole : (if err.isSizeLimit then RangeQueue.split? ⟨[]⟩ ⟨0, 1⟩ else none) = none :=
    ite_self none
  rw [StatusReader.batchStatus, if_neg (by simp), htarget]
  dsimp only [List.length_singleton]
  rw [RangeQueue.ofLength_one, StatusReader.serve]
  refine yields_bind.2 ⟨_, [], .error err, (List.append_nil _).symm, ⟨.error err, [], rfl, rfl, rfl⟩,
    ?_⟩
  dsimp only
  split
  · rename_i halved hs
    cases whole.symm.trans hs
  · exact ⟨rfl, rfl⟩

/-! ## A call that registers one identity -/

open Gateway

/-- A reader that asks the registry alone. -/
def settledReader : StatusReader :=
  ⟨hastyGateway sampleKey, .zero, none, 1⟩

def settledEngine : Engine :=
  { freshEngine with statuses := settledReader.source }

theorem readsThrough_settledReader : settledEngine.ReadsThrough settledReader :=
  ⟨rfl, rfl, rfl⟩

/-- Authorities that know nobody. -/
def blank : Holdings :=
  ⟨fun _ => ⟨0, .zero, .zero⟩, fun _ => ⟨.zero, .zero, 0⟩⟩

def sampleLookup : Multicall.Call :=
  lookupCall .zero .registry (sampleIntent 0).pubkey

def samplePlanning (reply : Bytes) : List Exchange :=
  [⟨.node (.call .zero (Multicall.encode [sampleLookup])), .ok reply⟩,
    ⟨.observe (.classified (sampleIntent 0).pubkey (.unregistered false)), ()⟩]

def sampleData : Bytes :=
  Registry.encodeBatch samplePlan.registryBatch

def sampleSending (raw : Bytes) : List Exchange :=
  [⟨.acquire .nonce, ()⟩, ⟨.node .gasPrice, .ok 1⟩, ⟨.node .priorityFee, .ok 1⟩,
    ⟨.node (.estimateGas freshEngine.signer .zero sampleData), .ok 21000⟩,
    ⟨.node (.pendingNonce freshEngine.signer), .ok 0⟩,
    ⟨.node (.sendRaw raw), .ok (Transaction.hashRaw raw)⟩, ⟨.release .nonce, ()⟩, ⟨.clock, 0⟩,
    ⟨.node (.receipt (Transaction.hashRaw raw)), .ok (some ⟨true, some 1⟩)⟩]

def sampleChunk (reply raw : Bytes) : List Exchange :=
  samplePlanning reply ++
    (sampleSending raw ++ [report .registry 1 (.confirmed (Transaction.hashRaw raw))])

def sampleTrace (reply raw : Bytes) : List Exchange :=
  [⟨.acquire .session, ()⟩, ⟨.exclusions, sampleExclusions⟩] ++
    (sampleChunk reply raw ++ [⟨.release .session, ()⟩])

def sampleConfirmed (hash : Word) : Plan :=
  samplePlan.applyStatus .registry [(sampleIntent 0).pubkey] (.confirmed hash)

def sampleStatuses : StatusSnapshot :=
  ⟨Table.empty.insert (sampleIntent 0).pubkey .unregistered, none⟩

theorem readStatuses_yields_sample {reply : Bytes}
    (decoded : Multicall.decodeAnswers? reply = some [blank.answer sampleLookup]) :
    (settledEngine.readStatuses [(sampleIntent 0).pubkey]).Yields
      ((samplePlanning reply).take 1) (.ok sampleStatuses) := by
  have target : settledReader.target .registry = .ok .zero := rfl
  have read := batchStatus_yields_single (k := (sampleIntent 0).pubkey) target decoded
  have told : statusOfAnswer .registry (blank.answer sampleLookup) = .unregistered :=
    (blank.shows_answer .zero .registry (sampleIntent 0).pubkey).statusOfAnswer_eq
  rw [told] at read
  exact yields_monad_bind.2 ⟨_, [], _, (List.append_nil _).symm, read, rfl, rfl⟩

theorem dispatch_yields_sample {raw : Bytes} (signed : sampleCall.sign? sampleKey = some raw) :
    (settledEngine.dispatcher.dispatch samplePlan).Yields
      (sampleSending raw ++ [report .registry 1 (.confirmed (Transaction.hashRaw raw))])
      (.ok (), sampleConfirmed (Transaction.hashRaw raw)) := by
  have registered : (settledEngine.dispatcher.sendRegistrations samplePlan).Yields
      (sampleSending raw ++ [report .registry 1 (.confirmed (Transaction.hashRaw raw))])
      (sampleConfirmed (Transaction.hashRaw raw)) :=
    yields_monad_bind.2 ⟨_, _, _, rfl, attempt_yields_hasty "registry" ⟨true, some 1⟩ signed, (), _,
      rfl, rfl, rfl⟩
  exact yields_monad_bind.2 ⟨_, [], _, (List.append_nil _).symm, registered, rfl, rfl⟩

def sampleRun {reply raw : Bytes}
    (decoded : Multicall.decodeAnswers? reply = some [blank.answer sampleLookup])
    (signed : sampleCall.sign? sampleKey = some raw) :
    FinishedRun settledEngine sampleExclusions where
  chunk := [sampleIntent 0]
  statuses := sampleStatuses
  prepared := [.unchanged (sampleIntent 0)]
  plan := samplePlan
  reading := (samplePlanning reply).take 1
  preparing := []
  planning := (samplePlanning reply).drop 1
  sending := sampleSending raw ++ [report .registry 1 (.confirmed (Transaction.hashRaw raw))]
  reads := readStatuses_yields_sample decoded
  prepares := ⟨rfl, rfl⟩
  plans := ⟨(), [], rfl, rfl, rfl⟩
  sends := (dispatch_yields_sample signed).begins
  final := sampleConfirmed (Transaction.hashRaw raw)
  finishes := dispatch_yields_sample signed

theorem processRegistrations_yields_sample {reply raw : Bytes}
    (decoded : Multicall.decodeAnswers? reply = some [blank.answer sampleLookup])
    (signed : sampleCall.sign? sampleKey = some raw) :
    (settledEngine.processRegistrations [sampleIntent 0]).Yields (sampleTrace reply raw)
      (.ok (sampleConfirmed (Transaction.hashRaw raw)).results) :=
  processRegistrations_of_runs (by simp) [sampleRun decoded signed] rfl

theorem answeredBy_sample {reply raw : Bytes}
    (replied : blank.reply (Multicall.encode [sampleLookup]) = .ok reply) :
    AnsweredBy (settledEngine.settlingNode blank) (sampleTrace reply raw) := by
  have receipt {t : List Exchange} (sent : broadcasts t = [raw]) :
      settledEngine.settlingNode blank t (.node (.receipt (Transaction.hashRaw raw))) =
        .ok (some ⟨true, some 1⟩) :=
    congrArg Except.ok (receiptFor_of_mem (by rw [sent]; exact List.mem_singleton_self raw))
  have answers : AnsweredFrom (settledEngine.settlingNode blank) [] (sampleTrace reply raw) :=
    ⟨rfl, rfl, replied.symm, rfl, rfl, rfl, rfl, rfl, rfl, rfl, rfl, rfl, (receipt rfl).symm, rfl,
      rfl, trivial⟩
  exact answers.answeredBy answeredBy_nil

/-- The node confirms the one transaction of the call. -/
theorem run_settledEngine : ∃ reply raw, raw.length < 2 ^ 64 ∧
    AnsweredBy (settledEngine.settlingNode blank) (sampleTrace reply raw) ∧
    (settledEngine.processRegistrations [sampleIntent 0]).Yields (sampleTrace reply raw)
      (.ok (sampleConfirmed (Transaction.hashRaw raw)).results) ∧
    (settledEngine.processRegistrations [sampleIntent 0]).run
      (recording (settledEngine.settlingNode blank)) [] =
        (some (.ok (sampleConfirmed (Transaction.hashRaw raw)).results),
          sampleTrace reply raw) := by
  obtain ⟨raw, signed, short⟩ := sampleCall_signed_short
  obtain ⟨reply, replied, decoded⟩ := blank.exists_reply .zero .registry (sampleIntent 0).pubkey
  have yields := processRegistrations_yields_sample decoded signed
  exact ⟨reply, raw, short, answeredBy_sample replied, yields,
    run_of_yields yields (answeredBy_sample replied)⟩

set_option maxRecDepth 100000 in
theorem isZero_signer_settledEngine : settledEngine.signer.isZero = false := by
  decide +kernel

end Engine

end Registrar
