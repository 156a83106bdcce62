import Registrar.Bytes
import Registrar.Error

/-! The phases of one outgoing transaction and the moves between them. -/
namespace Registrar
set_option autoImplicit false

inductive Phase where
  | built
  | signed
  | submitted
  | pending
  | confirmed
  | failed
deriving DecidableEq, Repr

namespace Phase

def isTerminal : Phase → Bool
  | confirmed | failed => true
  | _ => false

def label : Phase → String
  | built => "built"
  | signed => "signed"
  | submitted => "submitted"
  | pending => "pending"
  | confirmed => "confirmed"
  | failed => "failed"

/-- The moves that there are, as pairs of the phase left and the phase reached. -/
def moves : List (Phase × Phase) :=
  [(built, signed), (built, failed),
    (signed, submitted), (signed, failed),
    (submitted, pending), (submitted, failed),
    (pending, confirmed), (pending, failed)]

def allows (origin target : Phase) : Bool :=
  moves.contains (origin, target)

end Phase

structure Lifecycle where
  label : String
  phase : Phase
  txHash : Option Word
deriving DecidableEq

namespace Lifecycle

def start (label : String) : Lifecycle :=
  ⟨label, .built, none⟩

/-- Moves to `target`, or reports why it cannot and stays. -/
def advance (t : Lifecycle) (target : Phase) : Lifecycle × Except Error Unit :=
  if t.phase.allows target then ({ t with phase := target }, .ok ())
  else (t, .error (.invalidTransition t.phase.label target.label))

/-- Takes the hash of the signed transaction and moves to `signed`. -/
def sign (t : Lifecycle) (hash : Word) : Lifecycle × Except Error Unit :=
  { t with txHash := some hash }.advance .signed

def fail (t : Lifecycle) : Lifecycle :=
  if t.phase.isTerminal then t else { t with phase := .failed }

end Lifecycle

end Registrar
