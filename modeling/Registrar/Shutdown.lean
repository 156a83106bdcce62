/-! The shutdown channel: its receiving end, and waits for shutdown on it, which go on whenever there
is something new to hear. -/
namespace Registrar
set_option autoImplicit false

/-! ## The receiving end -/

/-- Of several messages only the last one is kept. -/
structure StopReceiver where
  value : Bool
  unheard : Bool
  connected : Bool
deriving DecidableEq, Repr

namespace StopReceiver

def start : StopReceiver :=
  ⟨false, false, true⟩

/-- There is something to hear: a message, or that no more will come. -/
def changed (r : StopReceiver) : Bool :=
  r.unheard || !r.connected

def heard (r : StopReceiver) : StopReceiver :=
  { r with unheard := false }

def send (r : StopReceiver) (stop : Bool) : StopReceiver :=
  if r.connected then { r with value := stop, unheard := true } else r

/-- What comes over the channel; `none` is the end of the sender. -/
def receive (r : StopReceiver) : Option Bool → StopReceiver
  | none => { r with connected := false }
  | some stop => r.send stop

end StopReceiver

/-! ## Waiting for shutdown -/

/-- How far a wait has come. -/
inductive ShutdownWait where
  /-- It is about to look at the value of the channel. -/
  | looking
  /-- It listens for something new. -/
  | listening
  /-- Shutdown was called for. -/
  | ended
  /-- The sender is gone and has not called for shutdown: nothing will end the wait. -/
  | endless
deriving DecidableEq, Repr

namespace ShutdownWait

/-- Looks at the value, which counts as heard, and listens on unless it calls for shutdown. -/
def look (r : StopReceiver) : ShutdownWait × StopReceiver :=
  if r.value then (ended, r.heard)
  else if r.heard.changed then (endless, r.heard)
  else (listening, r.heard)

/-- How far a wait comes, and what it leaves to be heard, before it has to listen again. -/
def resume (stage : ShutdownWait) (r : StopReceiver) : ShutdownWait × StopReceiver :=
  match stage with
  | looking => look r
  | listening =>
    if r.unheard then look r.heard
    else if r.changed then (endless, r)
    else (listening, r)
  | ended | endless => (stage, r)

end ShutdownWait

end Registrar
