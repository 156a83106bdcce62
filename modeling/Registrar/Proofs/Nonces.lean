import Mathlib.Data.List.Forall2
import Registrar.Proofs.Consistency
import Registrar.Proofs.Interleaving
import Registrar.Proofs.Rlp

/-! Nonces of calls side by side. From reading its nonce to broadcasting with it a call holds the
lock, so that the nonces of all that the node accepts follow upon each other, however the calls are
interleaved and whatever fails in them. -/
namespace Registrar
set_option autoImplicit false

open Program

/-! ## Stages of a call -/

/-- How a call stands to the next nonce: without the lock, with it, or with the nonce as well. -/
inductive NonceStage where
  | free
  | holding
  | ready (nonce : UInt64)

namespace NonceStage

variable {g : Gateway} {stage : NonceStage}

/-- What a call may ask at a stage. It broadcasts nothing but what it has signed with the nonce. -/
def Permits (g : Gateway) : NonceStage → Ask → Prop
  | stage, .acquire .nonce => stage = .free
  | stage, .release .nonce => stage ≠ .free
  | stage, .node (.pendingNonce a) => stage ≠ .free ∧ a = g.signer.address
  | stage, .node (.sendRaw raw) =>
    ∃ t : Transaction, stage = .ready t.nonce ∧ t.sign? g.signer.key = some raw
  | _, _ => True

/-- The stage after an exchange. A broadcast uses the nonce up, whatever is answered. -/
def after (stage : NonceStage) : Exchange → NonceStage
  | ⟨.acquire .nonce, _⟩ => .holding
  | ⟨.release .nonce, _⟩ => .free
  | ⟨.node (.pendingNonce _), .ok nonce⟩ => .ready nonce
  | ⟨.node (.sendRaw _), _⟩ => .holding
  | _ => stage

theorem ready_of_after {x : Exchange} {nonce : UInt64} (permits : stage.Permits g x.question)
    (ready : stage.after x = .ready nonce) :
    stage = .ready nonce ∨ x = ⟨.node (.pendingNonce g.signer.address), .ok nonce⟩ := by
  obtain ⟨q, answer⟩ := x
  cases q with
  | node c =>
    cases c with
    | pendingNonce a =>
      obtain ⟨-, rfl⟩ := permits
      cases answer with
      | error e => exact .inl ready
      | ok told =>
        cases ready
        exact .inr rfl
    | sendRaw raw => cases ready
    | _ => exact .inl ready
  | acquire l | release l =>
    cases l with
    | session => exact .inl ready
    | nonce => cases ready
  | _ => exact .inl ready

/-- Only with the lock is the call at another stage than `free`. -/
theorem ne_free_of_after {q : Ask} {answer : q.Answer} (permits : stage.Permits g q)
    (plain : q ≠ .acquire .nonce) (h : stage.after ⟨q, answer⟩ ≠ .free) : stage ≠ .free := by
  cases q with
  | node c =>
    cases c with
    | pendingNonce a => exact permits.1
    | sendRaw raw =>
      obtain ⟨t, rfl, -⟩ := permits
      nofun
    | _ => exact h
  | acquire l =>
    cases l with
    | session => exact h
    | nonce => exact absurd rfl plain
  | release l =>
    cases l with
    | session => exact h
    | nonce => exact permits
  | _ => exact h

theorem permits_of_waits {q : Ask} (h : q.waits = true) : stage.Permits g q := by
  cases q with
  | node c => cases c <;> trivial
  | clock | pause => trivial
  | _ => cases h

theorem after_of_waits {q : Ask} (h : q.waits = true) (answer : q.Answer) :
    stage.after ⟨q, answer⟩ = stage := by
  cases q with
  | node c => cases c <;> first | rfl | cases h
  | clock | pause => rfl
  | _ => cases h

end NonceStage

/-! ## Programs that keep to their stage -/

namespace Program

variable {α β : Type} {g : Gateway}

/-- From the stage on, whatever it is answered, the program asks only what its stage permits, and
where it ends, stage and result have the property. -/
def Keeps (g : Gateway) (post : NonceStage → α → Prop) : Program α → NonceStage → Prop
  | done a, stage => post stage a
  | ask q next, stage =>
    stage.Permits g q ∧ ∀ answer, (next answer).Keeps g post (stage.after ⟨q, answer⟩)
  | stuck, _ => True

theorem Keeps.bind {p : Program α} {f : α → Program β} {mid : NonceStage → α → Prop}
    {post : NonceStage → β → Prop} {stage : NonceStage} (hp : p.Keeps g mid stage)
    (hf : ∀ stage a, mid stage a → (f a).Keeps g post stage) : (p >>= f).Keeps g post stage := by
  induction p generalizing stage with
  | done a => exact hf stage a hp
  | ask q next ih => exact ⟨hp.1, fun answer => ih answer (hp.2 answer)⟩
  | stuck => trivial

theorem keeps_of_waits {p : Program α} (hp : p.Asks fun q => q.waits = true) (stage : NonceStage) :
    p.Keeps g (fun stage' _ => stage' = stage) stage := by
  induction p with
  | done a => rfl
  | ask q next ih =>
    refine ⟨NonceStage.permits_of_waits hp.1, fun answer => ?_⟩
    rw [NonceStage.after_of_waits hp.1]
    exact ih answer (hp.2 answer)
  | stuck => trivial

end Program

namespace Gateway

variable {g : Gateway} {target : Address} {data : Bytes} {label : String}

/-- With the lock, building ends with a transaction signed with the nonce that was read, or with
none. -/
theorem build_keeps (g : Gateway) (target : Address) (data : Bytes) (label : String) :
    (g.build target data (.start label)).Keeps g (fun stage built =>
      stage ≠ .free ∧ ∀ tx, built.1 = .ok tx →
        ∃ t : Transaction, stage = .ready t.nonce ∧ t.sign? g.signer.key = some tx.raw)
      .holding := by
  have holding : NonceStage.holding ≠ .free := by
    intro same
    cases same
  have failed (e : Error) (life : Lifecycle) :
      NonceStage.holding ≠ .free ∧ ∀ tx, ((.error e, life) : Stepped SignedTx).1 = .ok tx →
        ∃ t : Transaction, NonceStage.holding = .ready t.nonce ∧
          t.sign? g.signer.key = some tx.raw := by
    refine ⟨holding, fun tx ok => ?_⟩
    cases ok
  unfold build
  refine ⟨trivial, fun gasPrice => ?_⟩
  cases gasPrice with
  | error e => exact failed e _
  | ok gasPrice =>
  simp only [Program.bind]
  split
  · exact failed _ _
  refine ⟨trivial, fun tip => ?_⟩
  cases tip with
  | error e => exact failed e _
  | ok tip =>
  refine ⟨trivial, fun estimate => ?_⟩
  cases estimate with
  | error e => exact failed e _
  | ok estimate =>
  refine ⟨⟨holding, rfl⟩, fun nonce => ?_⟩
  cases nonce with
  | error e => exact failed e _
  | ok nonce =>
  have ready : NonceStage.ready nonce ≠ .free := by
    intro same
    cases same
  refine ⟨ready, fun tx ok => ?_⟩
  let quote : Quote := ⟨gasPrice, tip, estimate, nonce⟩
  obtain ⟨details, signed⟩ | ⟨tx', signed, raw⟩ :=
    signTransaction_cases g (quote.transaction g target data) label
  · cases (congrArg Prod.fst signed).symm.trans ok
  · cases (congrArg Prod.fst signed).symm.trans ok
    exact ⟨_, rfl, raw⟩

/-- One broadcast with the nonce, and only look-ups after it. -/
theorem submit_keeps {tx : SignedTx} {t : Transaction} (signed : t.sign? g.signer.key = some tx.raw)
    (life : Lifecycle) :
    (submit tx life).Keeps g (fun stage _ => stage ≠ .free) (.ready t.nonce) := by
  refine ⟨⟨t, rfl, signed⟩, fun sent => ?_⟩
  cases sent with
  | ok echoed => exact nofun
  | error e =>
  refine ⟨trivial, fun seen => ?_⟩
  match seen with
  | .error _ | .ok none | .ok (some _) => exact nofun

/-- The lock is taken before the nonce is read and given back after the broadcast, on every way. -/
theorem broadcast_keeps (g : Gateway) (target : Address) (data : Bytes) (label : String) :
    (g.broadcast target data (.start label)).Keeps g (fun stage _ => stage = .free) .free := by
  have release {stage : NonceStage} (holds : stage ≠ .free) (submitted : Stepped Word) :
      (request (.release .nonce) >>= fun _ => pure submitted).Keeps g
        (fun stage _ => stage = .free) stage := ⟨holds, fun _ => rfl⟩
  refine ⟨rfl, fun _ => (build_keeps g target data label).bind fun stage ⟨built, life⟩ mid => ?_⟩
  obtain ⟨holds, signs⟩ := mid
  cases built with
  | error e => exact release holds _
  | ok tx =>
    obtain ⟨t, rfl, signed⟩ := signs tx rfl
    exact (submit_keeps signed life).bind fun stage submitted holds => release holds submitted

theorem sendAndConfirm_keeps (g : Gateway) (label : String) (target : Address) (data : Bytes) :
    (g.sendAndConfirm label target data).Keeps g (fun _ _ => True) .free := by
  refine (broadcast_keeps g target data label).bind fun stage ⟨sent, life⟩ free => ?_
  subst free
  cases sent with
  | error e => trivial
  | ok hash =>
    have waiting := keeps_of_waits (g := g) (waitForReceipt_waits g hash life) .free
    exact waiting.bind fun _ _ _ => trivial

/-! ## The node -/

/-- What the node has accepted before and after an exchange. It may accept a broadcast or not,
whatever it answers, and the nonce that it tells of the account counts what it has accepted. -/
inductive Takes (g : Gateway) (base : Nat) (accepted : List Bytes) :
    Exchange → List Bytes → Prop
  | told (nonce : UInt64) (h : nonce.toNat = base + accepted.length) :
    Takes g base accepted ⟨.node (.pendingNonce g.signer.address), .ok nonce⟩ accepted
  | accepted (raw : Bytes) (answer : Except Error Word) :
    Takes g base accepted ⟨.node (.sendRaw raw), answer⟩ (accepted ++ [raw])
  | other (x : Exchange)
      (h : ∀ nonce, x ≠ ⟨.node (.pendingNonce g.signer.address), .ok nonce⟩) :
    Takes g base accepted x accepted

/-- In these exchanges the node can have accepted the raw forms, in this order. -/
inductive Serves (g : Gateway) (base : Nat) : List Exchange → List Bytes → Prop
  | nil : Serves g base [] []
  | concat {t : List Exchange} {accepted accepted' : List Bytes} {x : Exchange}
      (h : Serves g base t accepted) (takes : Takes g base accepted x accepted') :
    Serves g base (t ++ [x]) accepted'

variable {base : Nat} {accepted accepted' : List Bytes} {t u : List Exchange}

theorem Serves.eq_nil (h : g.Serves base [] accepted) : accepted = [] := by
  generalize same : [] = t at h
  cases h with
  | nil => rfl
  | concat h takes => simp at same

theorem Serves.of_concat {x : Exchange} (h : g.Serves base (t ++ [x]) accepted') :
    ∃ accepted, g.Serves base t accepted ∧ g.Takes base accepted x accepted' := by
  generalize same : t ++ [x] = t' at h
  cases h with
  | nil => simp at same
  | concat h takes =>
    obtain ⟨rfl, one⟩ := List.append_inj' same rfl
    obtain rfl := List.singleton_inj.1 one
    exact ⟨_, h, takes⟩

theorem Serves.idle (h : g.Serves base t accepted)
    (idle : ∀ x ∈ u, ∀ nonce, x ≠ ⟨.node (.pendingNonce g.signer.address), .ok nonce⟩) :
    g.Serves base (t ++ u) accepted := by
  induction u using List.reverseRecOn with
  | nil => rwa [List.append_nil]
  | append_singleton u x ih =>
    obtain ⟨before, last⟩ := List.forall_mem_append.1 idle
    rw [← List.append_assoc]
    exact (ih before).concat (.other x (last x (List.mem_singleton_self x)))

/-! ## Consecutive nonces -/

/-- The raw forms are transactions signed by the gateway with the nonces from `base` on. -/
def Numbered (g : Gateway) (base : Nat) (accepted : List Bytes) : Prop :=
  ∃ txs : List Transaction, txs.map (·.nonce.toNat) = List.range' base accepted.length ∧
    List.Forall₂ (fun t raw => t.sign? g.signer.key = some raw) txs accepted

theorem numbered_nil : g.Numbered base [] :=
  ⟨[], rfl, .nil⟩

theorem Numbered.concat {t : Transaction} {raw : Bytes} (h : g.Numbered base accepted)
    (signed : t.sign? g.signer.key = some raw)
    (next : t.nonce.toNat = base + accepted.length) : g.Numbered base (accepted ++ [raw]) := by
  obtain ⟨txs, nonces, raws⟩ := h
  refine ⟨txs ++ [t], ?_, List.rel_append raws (.cons signed .nil)⟩
  rw [List.map_append, nonces, List.length_append, List.length_singleton, List.range'_1_concat,
    List.map_singleton, next]

end Gateway

/-! ## Calls side by side -/

namespace Calls

variable {ι α : Type} {g : Gateway} {base : Nat} {calls : ι → Program α} {s s' : Calls ι α}
  {stage : ι → NonceStage} {accepted accepted' : List Bytes}

/-- Each call keeps to its stage, nobody but the holder of the lock is ahead of the first stage, the
nonce that a call has read is still the next one, and what was accepted is numbered. -/
structure InTurn (g : Gateway) (base : Nat) (stage : ι → NonceStage) (accepted : List Bytes)
    (s : Calls ι α) : Prop where
  keeps : ∀ i, (s.left i).Keeps g (fun _ _ => True) (stage i)
  holder : ∀ i, stage i ≠ .free → s.holder .nonce = some i
  current : ∀ i nonce, stage i = .ready nonce → nonce.toNat = base + accepted.length
  numbered : g.Numbered base accepted

theorem inTurn_start (keeps : ∀ i, (calls i).Keeps g (fun _ _ => True) .free) :
    InTurn g base (fun _ => .free) [] (start calls) where
  keeps := keeps
  holder _ ahead := absurd rfl ahead
  current _ _ ready := nomatch ready
  numbered := Gateway.numbered_nil

namespace InTurn

theorem eq_of_ahead (h : InTurn g base stage accepted s) {i j : ι} (hi : stage i ≠ .free)
    (hj : stage j ≠ .free) : i = j :=
  Option.some.inj ((h.holder i hi).symm.trans (h.holder j hj))

variable [DecidableEq ι]

variable {i : ι} {q : Ask} {next : q.Answer → Program α}

theorem proceed {answer : q.Answer} (h : InTurn g base stage accepted s)
    (asks : s.left i = ask q next)
    (takes : g.Takes base accepted ⟨q, answer⟩ accepted')
    (left : s'.left = Function.update s.left i (next answer))
    (holder : ∀ j, Function.update stage i ((stage i).after ⟨q, answer⟩) j ≠ .free →
      s'.holder .nonce = some j) :
    InTurn g base (Function.update stage i ((stage i).after ⟨q, answer⟩)) accepted' s' := by
  have own := h.keeps i
  rw [asks] at own
  obtain ⟨permits, onward⟩ := own
  refine ⟨fun j => ?keeps, holder, fun j nonce ready => ?current, ?numbered⟩
  case keeps =>
    rw [left]
    by_cases same : j = i
    · rw [same, Function.update_self, Function.update_self]
      exact onward answer
    · rw [Function.update_of_ne same, Function.update_of_ne same]
      exact h.keeps j
  case current =>
    by_cases same : j = i
    · rw [same, Function.update_self] at ready
      obtain before | told := NonceStage.ready_of_after permits ready
      · cases takes with
        | told other told =>
          cases ready
          exact told
        | accepted raw answer => cases ready
        | other x idle => exact h.current i nonce before
      · cases takes with
        | told other count =>
          cases told
          exact count
        | accepted raw answer => cases told
        | other x idle => exact absurd told (idle nonce)
    · rw [Function.update_of_ne same] at ready
      cases takes with
      | told other told => exact h.current j nonce ready
      | accepted raw answer =>
        -- the one who broadcasts is ahead, so that no other call has a nonce
        obtain ⟨t, sending, -⟩ := permits
        exact absurd (h.eq_of_ahead (by rw [ready]; nofun) (by rw [sending]; nofun)) same
      | other x idle => exact h.current j nonce ready
  case numbered =>
    cases takes with
    | told other told => exact h.numbered
    | accepted raw answer =>
      obtain ⟨t, sending, signed⟩ := permits
      exact h.numbered.concat signed (h.current i t.nonce sending)
    | other x idle => exact h.numbered

/-- Who is ahead after a question that leaves the lock where it is held it before. -/
theorem holder_of_plain (h : InTurn g base stage accepted s) (asks : s.left i = ask q next)
    (plain : q ≠ .acquire .nonce) (answer : q.Answer) {j : ι}
    (ahead : Function.update stage i ((stage i).after ⟨q, answer⟩) j ≠ .free) :
    s.holder .nonce = some j := by
  by_cases same : j = i
  · have own := h.keeps i
    rw [asks] at own
    rw [same, Function.update_self] at ahead
    rw [same]
    exact h.holder i (NonceStage.ne_free_of_after own.1 plain ahead)
  · rw [Function.update_of_ne same] at ahead
    exact h.holder j ahead

theorem drop (h : InTurn g base stage accepted s) (i : ι) :
    InTurn g base (Function.update stage i .free) accepted (s.drop i) := by
  refine ⟨fun j => ?keeps, fun j ahead => ?holder, fun j nonce ready => ?current, h.numbered⟩
  case keeps =>
    by_cases same : j = i
    · rw [left_drop, same, Function.update_self]
      trivial
    · rw [left_drop, Function.update_of_ne same, Function.update_of_ne same]
      exact h.keeps j
  case holder =>
    by_cases same : j = i
    · rw [same, Function.update_self] at ahead
      exact absurd rfl ahead
    · rw [Function.update_of_ne same] at ahead
      simp [holder_drop, h.holder j ahead, same]
  case current =>
    by_cases same : j = i
    · rw [same, Function.update_self] at ready
      cases ready
    · rw [Function.update_of_ne same] at ready
      exact h.current j nonce ready

theorem acquire (h : InTurn g base stage accepted s) {l : Lock} {next : Unit → Program α}
    (asks : s.left i = ask (.acquire l) next) (unheld : s.holder l = none)
    (takes : g.Takes base accepted ⟨.acquire l, ()⟩ accepted') :
    ∃ stage', InTurn g base stage' accepted'
      ((s.proceed i (q := .acquire l) next ()).pass l (some i)) := by
  refine ⟨_, h.proceed asks takes rfl fun j ahead => ?_⟩
  cases l with
  | session => exact h.holder_of_plain asks nofun () ahead
  | nonce =>
    rw [holder_pass, Function.update_self]
    by_cases same : j = i
    · rw [same]
    · rw [Function.update_of_ne same] at ahead
      cases unheld.symm.trans (h.holder j ahead)

theorem release (h : InTurn g base stage accepted s) {l : Lock} {next : Unit → Program α}
    (asks : s.left i = ask (.release l) next) (own : s.holder l = some i)
    (takes : g.Takes base accepted ⟨.release l, ()⟩ accepted') :
    ∃ stage', InTurn g base stage' accepted'
      ((s.proceed i (q := .release l) next ()).pass l none) := by
  refine ⟨_, h.proceed asks takes rfl fun j ahead => ?_⟩
  cases l with
  | session => exact h.holder_of_plain asks nofun () ahead
  | nonce =>
    by_cases same : j = i
    · rw [same, Function.update_self] at ahead
      exact absurd rfl ahead
    · rw [Function.update_of_ne same] at ahead
      exact absurd (Option.some.inj ((h.holder j ahead).symm.trans own)) same

end InTurn

variable [DecidableEq ι]

theorem Step.inTurn (next : Step s s')
    (h : ∀ accepted, g.Serves base s.trace accepted → ∃ stage, InTurn g base stage accepted s)
    (serves : g.Serves base s'.trace accepted') : ∃ stage, InTurn g base stage accepted' s' := by
  cases next with
  | answer i q next answer asks plain =>
    obtain ⟨accepted, before, takes⟩ := serves.of_concat
    obtain ⟨stage, inTurn⟩ := h accepted before
    exact ⟨_, inTurn.proceed asks takes rfl fun j =>
      inTurn.holder_of_plain asks (plain .nonce).1 answer⟩
  | acquire i l next asks unheld =>
    obtain ⟨accepted, before, takes⟩ := serves.of_concat
    obtain ⟨stage, inTurn⟩ := h accepted before
    exact inTurn.acquire asks unheld takes
  | release i l next asks own =>
    obtain ⟨accepted, before, takes⟩ := serves.of_concat
    obtain ⟨stage, inTurn⟩ := h accepted before
    exact inTurn.release asks own takes
  | drop i =>
    obtain ⟨stage, inTurn⟩ := h accepted' serves
    exact ⟨_, inTurn.drop i⟩

/-- However far the calls have come, they are in turn. -/
theorem Reached.inTurn (keeps : ∀ i, (calls i).Keeps g (fun _ _ => True) .free)
    (reached : Reached calls s) (serves : g.Serves base s.trace accepted) :
    ∃ stage, InTurn g base stage accepted s := by
  induction reached generalizing accepted with
  | refl =>
    obtain rfl := serves.eq_nil
    exact ⟨_, inTurn_start keeps⟩
  | tail _ next ih => exact next.inTurn (fun accepted => ih) serves

end Calls

namespace Gateway

variable {ι : Type} [DecidableEq ι] {s : Calls ι TxAttempt} {label : ι → String}
  {target : ι → Address} {data : ι → Bytes}

/-- Whatever calls are under way side by side, however far they have come, and whatever failed,
timed out or was dropped in them: what the node accepted are transactions signed by the gateway, and
their nonces, in the order in which they were accepted, are those from `base` on, without repetition
or gap. -/
theorem reached_nonces (g : Gateway) (base : Nat) {accepted : List Bytes}
    (reached : Calls.Reached (fun i => g.sendAndConfirm (label i) (target i) (data i)) s)
    (serves : g.Serves base s.trace accepted) :
    ∃ txs : List Transaction, txs.map (·.nonce.toNat) = List.range' base accepted.length ∧
      List.Forall₂ (fun t raw => t.sign? g.signer.key = some raw ∧
        (raw.length < 2 ^ 64 → Transaction.ofRaw? raw = some t)) txs accepted := by
  have keeps (i : ι) := sendAndConfirm_keeps g (label i) (target i) (data i)
  obtain ⟨stage, inTurn⟩ := reached.inTurn keeps serves
  obtain ⟨txs, nonces, raws⟩ := inTurn.numbered
  refine ⟨txs, nonces, raws.imp fun t raw signed => ⟨signed, fun short => ?_⟩⟩
  exact Transaction.ofRaw?_of_sign signed short

set_option maxRecDepth 100000 in
theorem secondCall_signed :
    ∃ raw, ({ hastyCall .zero [] with nonce := 1 } : Transaction).sign? sampleKey = some raw := by
  have signed : (({ hastyCall .zero [] with nonce := 1 } : Transaction).sign? sampleKey).isSome =
      true := by
    decide +kernel
  exact Option.isSome_iff_exists.1 signed

theorem Serves.hasty {key : Crypto.Secp256k1.PrivateKey} {base : Nat} {t u : List Exchange}
    {accepted : List Bytes} (h : (hastyGateway key).Serves base t accepted) (nonce : UInt64)
    (next : nonce.toNat = base + accepted.length) (target : Address) (data raw : Bytes)
    (answer : Except Error Word) (idle : ∀ x ∈ u, ∀ a, x.question ≠ .node (.pendingNonce a)) :
    (hastyGateway key).Serves base
      (t ++ (hastyOpening key target data nonce ++ ⟨.node (.sendRaw raw), answer⟩ :: u))
      (accepted ++ [raw]) := by
  have asked := h.idle (u := (hastyOpening key target data nonce).take 4) (by simp [hastyOpening])
  have sent := (asked.concat (.told nonce next)).concat (.accepted raw answer)
  have whole := sent.idle (u := u) fun x hx nonce same => idle x hx _ (congrArg _ same)
  simpa [hastyOpening] using whole

/-- The answer to the first of two broadcasts is lost, although the node has accepted it; before its
receipt comes, the other call broadcasts with the next nonce. -/
theorem reached_nonces_overlap :
    ∃ (s : Calls Bool TxAttempt) (first second : Bytes) (txs : List Transaction),
      Calls.Reached (fun _ => (hastyGateway sampleKey).sendAndConfirm "registry" .zero []) s ∧
      (hastyGateway sampleKey).Serves 0 s.trace [first, second] ∧
      ⟨.node (.sendRaw first), .error (.nodeRpc "eth_sendRawTransaction" "reply lost")⟩ ∈ s.trace ∧
      (∀ i a, s.left i ≠ done a) ∧ txs.map (·.nonce.toNat) = [0, 1] ∧
      List.Forall₂ (fun t raw => t.sign? sampleKey = some raw ∧
        (raw.length < 2 ^ 64 → Transaction.ofRaw? raw = some t)) txs [first, second] := by
  obtain ⟨first, signed⟩ := emptyCall_signed
  obtain ⟨second, signed'⟩ := secondCall_signed
  let lost := Error.nodeRpc "eth_sendRawTransaction" "reply lost"
  have sent := broadcast_yields_hasty "registry" 0 signed (.known lost .pending)
  have sent' := broadcast_yields_hasty "registry" 1 signed' (.taken (Transaction.hashRaw second))
  have start : Calls.Reached (fun _ : Bool =>
      (hastyGateway sampleKey).sendAndConfirm "registry" .zero []) (Calls.start _) := .refl
  have half := start.onward (i := true) sent.leaves_bind ⟨rfl, rfl, trivial⟩
  have reached := half.onward (i := false) sent'.leaves_bind ⟨rfl, rfl, trivial⟩
  have none : (hastyGateway sampleKey).Serves 0 [] [] := .nil
  have one := none.hasty 0 rfl .zero [] first (.error lost)
    (u := [⟨.node (.transactionStatus (Transaction.hashRaw first)), .ok (some .pending)⟩,
      ⟨.release .nonce, ()⟩]) (by simp)
  have two := one.hasty 1 rfl .zero [] second (.ok (Transaction.hashRaw second))
    (u := [⟨.release .nonce, ()⟩]) (by simp)
  obtain ⟨txs, nonces, raws⟩ := reached_nonces (hastyGateway sampleKey) 0 reached two
  refine ⟨_, first, second, txs, reached, two, ?_, ?_, nonces, raws⟩
  · exact List.mem_append_left _ (by simp [hastyOpening, lost])
  · rintro (_ | _) a ended <;> cases ended

end Gateway

end Registrar
