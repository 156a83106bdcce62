import Registrar.Batch
import Registrar.Contract.Ledger
import Registrar.Contract.Multicall
import Registrar.Contract.Registry
import Registrar.Engine.Gateway

/-! Reading the status of many identities through the aggregating contract. A lookup that fails on
its own reads as unregistered; a read that is too large is halved. -/
namespace Registrar
set_option autoImplicit false

open Contract

/-! ## One lookup -/

def encodeStatusLookup : Authority → PublicKey → Bytes
  | .registry, k => Registry.encodeLookup k
  | .delegationLedger, k => Ledger.encodeLookup k

def decodeStatus : Authority → Bytes → Except Error AuthorityStatus
  | .registry, data =>
    match Registry.ProposerInfo.decode? data with
    | none => .error (.abi "getProposer decode" "short data")
    | some i => .ok ⟨.ofCode i.status, i.representative, i.payoutRecipient⟩
  | .delegationLedger, data =>
    match Ledger.DelegationInfo.decode? data with
    | none => .error (.abi "getNativeDelegation decode" "short data")
    | some i => .ok ⟨.ofLedger i.representative i.status, i.representative, i.payoutRecipient⟩

/-- The status that one answer of the aggregating contract stands for. -/
def statusOfAnswer (authority : Authority) (answer : Multicall.Answer) : AuthorityStatus :=
  if answer.success then
    match decodeStatus authority answer.data with
    | .ok status => status
    | .error _ => .unregistered
  else .unregistered

/-! ## One aggregate -/

def Gateway.aggregate (g : Gateway) (calls : List Multicall.Call) :
    Program (Except Error (List Multicall.Answer)) := do
  match ← Gateway.read g.settings.multicall (Multicall.encode calls) with
  | .error e => return .error e
  | .ok raw =>
    match Multicall.decodeAnswers? raw with
    | none => return .error (.abi "aggregate3 decode" "malformed answers")
    | some answers =>
      if answers.length = calls.length then return .ok answers
      else
        return .error (.abi "aggregate3 decode"
          ("expected " ++ toString calls.length ++ " results, got " ++ toString answers.length))

/-! ## Work still to be done -/

namespace RangeQueue

/-- Bounds how many reads a range can still lead to. -/
def rangeWeight (r : IndexRange) : Nat :=
  Nat.max 1 (2 * r.length - 1)

def weight (q : RangeQueue) : Nat :=
  (q.pending.map rangeWeight).foldr (· + ·) 0

theorem rangeWeight_pos (r : IndexRange) : 0 < rangeWeight r :=
  Nat.lt_of_lt_of_le Nat.zero_lt_one (Nat.le_max_left ..)

theorem weight_next {q rest : RangeQueue} {r : IndexRange} (h : q.next? = some (r, rest)) :
    q.weight = rangeWeight r + rest.weight := by
  cases q with
  | mk pending =>
    cases pending with
    | nil => simp [next?] at h
    | cons a as =>
      simp only [next?, Option.some.injEq, Prod.mk.injEq] at h
      obtain ⟨rfl, rfl⟩ := h
      simp [weight]

theorem weight_split {q next : RangeQueue} {r : IndexRange} (h : q.split? r = some next) :
    next.weight < rangeWeight r + q.weight := by
  unfold split? IndexRange.halves? at h
  split at h
  · simp at h
  · rename_i hr
    simp only [Option.map_some, Option.some.injEq] at h
    subst h
    simp only [weight, List.map_cons, List.foldr_cons, rangeWeight, IndexRange.length] at *
    simp only [Nat.max_def]
    split <;> split <;> split <;> omega

end RangeQueue

/-! ## Reading -/

/-- Where the engine learns what an authority holds; reading changes nothing. -/
structure StatusSource where
  read : List PublicKey → Authority → Program (Except Error StatusMap)
  read_looksUp : ∀ keys authority, (read keys authority).Asks fun q => q.looksUp = true

structure StatusReader where
  gateway : Gateway
  registry : Address
  delegation : Option Address
  /-- Identities in one read before any halving; zero counts as one. -/
  chunkSize : Nat

namespace StatusReader

def target (reader : StatusReader) : Authority → Except Error Address
  | .registry => .ok reader.registry
  | .delegationLedger =>
    match reader.delegation with
    | some a => .ok a
    | none => .error (.missingContractAddress "delegation.address")

def record (authority : Authority) (keys : List PublicKey) (answers : List Multicall.Answer)
    (m : StatusMap) : StatusMap :=
  (keys.zip answers).foldl (fun m (k, a) => m.insert k (statusOfAnswer authority a)) m

set_option linter.unusedVariables false in
/-- Serves the queue; a range that hits a size limit goes back as two halves. -/
def serve (reader : StatusReader) (target : Address) (authority : Authority)
    (identities : List PublicKey) (q : RangeQueue) (m : StatusMap) :
    Program (Except Error StatusMap) :=
  match hq : q.next? with
  | none => .done (.ok m)
  | some (range, rest) =>
    let keys := range.slice identities
    let calls := keys.map fun k => ⟨target, true, encodeStatusLookup authority k⟩
    (reader.gateway.aggregate calls).bind fun answer =>
      match answer with
      | .ok answers => serve reader target authority identities rest (record authority keys answers m)
      | .error e =>
        match hs : if e.isSizeLimit then rest.split? range else none with
        | some halved => serve reader target authority identities halved m
        | none => .done (.error (.statusReadFailed authority.label e.text))
termination_by q.weight
decreasing_by
  · have h1 := RangeQueue.weight_next hq
    have h2 := RangeQueue.rangeWeight_pos range
    omega
  · have h1 := RangeQueue.weight_next hq
    split at hs
    · have h2 := RangeQueue.weight_split hs
      omega
    · simp at hs

/-- The status of every identity at one authority; nothing is asked for no identities. -/
def batchStatus (reader : StatusReader) (identities : List PublicKey) (authority : Authority) :
    Program (Except Error StatusMap) :=
  if identities.isEmpty then .done (.ok .empty)
  else
    match reader.target authority with
    | .error e => .done (.error e)
    | .ok target =>
      reader.serve target authority identities (.ofLength identities.length reader.chunkSize) .empty

/-! ## Nothing but calls to the aggregating contract -/

theorem aggregate_looksUp (g : Gateway) (calls : List Multicall.Call) :
    (g.aggregate calls).Asks fun q => q.looksUp = true := by
  refine ⟨rfl, fun answer => ?_⟩
  cases answer with
  | error e => trivial
  | ok raw =>
    simp only [Program.bind]
    split
    · trivial
    · split <;> trivial

theorem serve_looksUp (reader : StatusReader) (target : Address) (authority : Authority)
    (identities : List PublicKey) (q : RangeQueue) (m : StatusMap) :
    (reader.serve target authority identities q m).Asks fun q => q.looksUp = true := by
  fun_induction serve reader target authority identities q m with
  | case1 => trivial
  | case2 q m range rest hq keys calls ihRest ihSplit =>
    refine (aggregate_looksUp reader.gateway calls).bind fun answer => ?_
    cases answer with
    | ok answers => exact ihRest answers
    | error e =>
      dsimp only
      split
      · rename_i halved hs
        exact ihSplit e halved hs
      · trivial

def source (reader : StatusReader) : StatusSource where
  read := reader.batchStatus
  read_looksUp := by
    intro keys authority
    unfold batchStatus
    split
    · trivial
    · split
      · trivial
      · exact serve_looksUp ..

end StatusReader

end Registrar
