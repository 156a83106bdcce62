import Registrar.Exclusion.Store
import Registrar.Metrics
import Registrar.Shutdown
import Registrar.Simulation.Chain

/-! Surroundings for the engine that are simulated in full: a scripted chain, scripted signers, a clock
that moves only when the engine sleeps, a shutdown channel with messages under way, and a log. -/
namespace Registrar.Simulation
set_option autoImplicit false

/-! ## Shutdown -/

/-- A message sent at an instant; `none` is the end of the sender. -/
structure Parcel where
  instant : Nat
  message : Option Bool
deriving DecidableEq, Repr

structure Shutdown extends StopReceiver where
  /-- Messages still under way, the earliest first. -/
  parcels : List Parcel

namespace Shutdown

def quiet : Shutdown := ⟨.start, []⟩

def post (s : Shutdown) (p : Parcel) : Shutdown :=
  { s with
    parcels := s.parcels.takeWhile (·.instant ≤ p.instant) ++ p ::
      s.parcels.dropWhile (·.instant ≤ p.instant) }

def receive (s : Shutdown) (message : Option Bool) : Shutdown :=
  { s with toStopReceiver := s.toStopReceiver.receive message }

/-- Sleeps to the instant `wake` and waits for shutdown at once. The wait goes on whenever all has
arrived that was sent up to an instant; a message that arrives at `wake` itself stays under way. -/
def passFrom (stage : ShutdownWait) (r : StopReceiver) (now wake : Nat) :
    List Parcel → Wake × Nat × Shutdown
  | [] =>
    let next := stage.resume r
    if next.1 = .ended then (.stopped, now, ⟨next.2, []⟩)
    else (.elapsed, Nat.max now wake, ⟨next.2, []⟩)
  | p :: rest =>
    if p.instant ≤ now then passFrom stage (r.receive p.message) now wake rest
    else
      let next := stage.resume r
      if next.1 = .ended then (.stopped, now, ⟨next.2, p :: rest⟩)
      else if p.instant < wake then
        passFrom next.1 (next.2.receive p.message) p.instant wake rest
      else (.elapsed, wake, ⟨next.2, p :: rest⟩)

def pass (s : Shutdown) (now wake : Nat) : Wake × Nat × Shutdown :=
  passFrom .looking s.toStopReceiver now wake s.parcels

end Shutdown

/-! ## Signers -/

/-- What a signer puts in place of the message that it was given. -/
structure Swap where
  pubkey : Option PublicKey
  feeRecipient : Option Address
  gasLimit : Option UInt64
  timestamp : Option UInt64

def Swap.apply (s : Swap) (m : RegistrationMessage) : RegistrationMessage :=
  ⟨s.feeRecipient.getD m.feeRecipient, s.gasLimit.getD m.gasLimit, s.timestamp.getD m.timestamp,
    s.pubkey.getD m.pubkey⟩

structure RemoteScript where
  /-- Absent when the listing fails. -/
  keys : Option (List PublicKey)
  failing : List PublicKey
  swapped : List (PublicKey × Swap)
  signature : BlsSignature

namespace RemoteScript

def list (r : RemoteScript) : Except Error (List PublicKey) :=
  match r.keys with
  | some keys => .ok keys
  | none => .error (.remoteSigner "list keys" "connection refused")

def sign (r : RemoteScript) (m : RegistrationMessage) : Except Error SignedRegistration :=
  if r.failing.contains m.pubkey then .error (.remoteSigner "sign" "refused")
  else
    match r.swapped.find? (·.1 = m.pubkey) with
    | some (_, swap) => .ok ⟨swap.apply m, r.signature⟩
    | none => .ok ⟨m, r.signature⟩

end RemoteScript

structure SecondaryScript where
  failing : List PublicKey
  /-- The second half of every signature. -/
  stamp : Word

def SecondaryScript.authorize (s : SecondaryScript) (r : SignedRegistration) :
    Except Error EcdsaSignature :=
  if s.failing.contains r.pubkey then
    .error (.secondarySignature r.pubkey.toHex "swapper refused")
  else .ok ⟨27, .ofNat (natOfBytes (r.pubkey.bytes.take 32)), s.stamp⟩

/-! ## The world -/

structure World where
  chain : Chain
  remote : Option RemoteScript
  secondary : Option SecondaryScript
  exclusions : ExclusionStore
  /-- Whether anyone observes the engine. -/
  observed : Bool
  metrics : Metrics
  /-- The present instant. -/
  now : Nat
  /-- Absent when the engine has no shutdown channel. -/
  shutdown : Option Shutdown
  /-- What happened, the latest first. -/
  log : List Trace

namespace World

def record (w : World) (t : Trace) : World :=
  { w with log := t :: w.log }

def askNode (w : World) (c : NodeCall) : Except Error c.Reply × World :=
  let (reply, chain) := w.chain.answer c
  (reply, { w with chain, log := (w.chain.traces c).reverse ++ w.log })

def pause (w : World) (wake : Nat) : Wake × World :=
  match w.shutdown with
  | none => (.elapsed, { w with now := Nat.max w.now wake })
  | some s =>
    let (ended, now, s) := s.pass w.now wake
    (ended, { w with now, shutdown := some s })

def listKeys (w : World) : Except Error (List PublicKey) × World :=
  match w.remote with
  | some r => (r.list, w.record .listed)
  | none => (.error (.remoteSigner "list keys" "absent"), w)

def signRegistration (w : World) (m : RegistrationMessage) :
    Except Error SignedRegistration × World :=
  match w.remote with
  | some r => (r.sign m, w.record (.signed m))
  | none => (.error (.remoteSigner "sign" "absent"), w)

def authorize (w : World) (r : SignedRegistration) (representative : Address) :
    Except Error EcdsaSignature × World :=
  match w.secondary with
  | some s => (s.authorize r, w.record (.authorized r representative))
  | none => (.error (.secondarySignature r.pubkey.toHex "absent"), w)

def observe (w : World) (e : Event) : World :=
  if w.observed then { w.record (.observed e) with metrics := w.metrics.observe e } else w

/-- Answers every question; calls are made one at a time, so a lock is always free. -/
def surroundings : Program.Surroundings World
  | .node c, w => w.askNode c
  | .clock, w => (w.now, w)
  | .pause wake, w => w.pause wake
  | .listKeys, w => w.listKeys
  | .signRegistration m, w => w.signRegistration m
  | .authorize r representative, w => w.authorize r representative
  | .exclusions, w => (w.exclusions.current, w)
  | .acquire _, w => ((), w)
  | .release _, w => ((), w)
  | .observe e, w => ((), w.observe e)

def run {α : Type} (w : World) (p : Program α) : Option α × World :=
  p.run surroundings w

end World

end Registrar.Simulation
