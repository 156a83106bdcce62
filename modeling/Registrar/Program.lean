import Registrar.Classification
import Registrar.Node
import Registrar.Registration
import Registrar.Report

/-! Programs that ask their surroundings: the node, the clock, the signers, the exclusion list, the
locks and the observer. A program is a tree of questions; what answers them is chosen when it is
run. -/
namespace Registrar
set_option autoImplicit false

/-! ## Questions -/

/-- Why an identity is left out of the results. -/
inductive Omission where
  | excluded
  | unauthorized
  | inconsistent
  | resign
  | secondarySignature
  | notDelegated
deriving DecidableEq, Repr

def Omission.label : Omission → String
  | excluded => "excluded"
  | unauthorized => "unauthorized"
  | inconsistent => "inconsistent"
  | resign => "resign"
  | secondarySignature => "secondary_signature"
  | notDelegated => "not_delegated"

/-- What the observer is told. -/
inductive Event where
  | classified (pubkey : PublicKey) (state : IdentityState)
  | omitted (pubkey : PublicKey) (reason : Omission)
  | dispatched (authority : Authority) (identities : Nat) (status : DispatchStatus)
  | acted (action : DelegationAction) (outcome : TransactionOutcome)
deriving DecidableEq

inductive Lock where
  /-- Held for the whole of one call to the engine. -/
  | session
  /-- Held from building a transaction to its broadcast. -/
  | nonce
deriving DecidableEq, Repr

/-- How a pause ended. -/
inductive Wake where
  | elapsed
  /-- Shutdown was called for. -/
  | stopped
deriving DecidableEq, Repr

inductive Ask where
  | node (c : NodeCall)
  /-- The present instant, in milliseconds. -/
  | clock
  /-- To sleep up to an instant or to shutdown, whichever comes first. -/
  | pause (wake : Nat)
  | listKeys
  | signRegistration (m : RegistrationMessage)
  | authorize (r : SignedRegistration) (representative : Address)
  | exclusions
  | acquire (l : Lock)
  | release (l : Lock)
  | observe (e : Event)

abbrev Ask.Answer : Ask → Type
  | node c => Except Error c.Reply
  | clock => Nat
  | pause _ => Wake
  | listKeys => Except Error (List PublicKey)
  | signRegistration _ => Except Error SignedRegistration
  | authorize .. => Except Error EcdsaSignature
  | exclusions => ExclusionTable
  | acquire _ | release _ | observe _ => Unit

/-- Whether a question only looks something up: nothing is sent, signed, locked or reported. -/
def Ask.looksUp : Ask → Bool
  | node (.sendRaw _) => false
  | node _ | clock | pause _ => true
  | _ => false

/-! ## Programs -/

inductive Program (α : Type) where
  | done (a : α)
  | ask (q : Ask) (next : q.Answer → Program α)
  /-- An instant lies beyond what the clock can tell. -/
  | stuck

namespace Program

variable {α β σ : Type}

def bind : Program α → (α → Program β) → Program β
  | done a, f => f a
  | ask q next, f => ask q fun answer => (next answer).bind f
  | stuck, _ => stuck

instance : Monad Program where
  pure := done
  bind := bind

def request (q : Ask) : Program q.Answer :=
  ask q done

def observe (e : Event) : Program Unit :=
  request (.observe e)

/-- Surroundings with a state: they answer each question and may change. -/
abbrev Surroundings (σ : Type) := (q : Ask) → σ → q.Answer × σ

/-- The result of a program in the given surroundings, and the state in which it leaves them. -/
def run (h : Surroundings σ) : Program α → σ → Option α × σ
  | done a, s => (some a, s)
  | ask q next, s => (next (h q s).1).run h (h q s).2
  | stuck, s => (none, s)

/-! ## Laws -/

theorem bind_done (p : Program α) : p.bind done = p := by
  induction p with
  | done a => rfl
  | ask q next ih => simp only [bind, ih]
  | stuck => rfl

theorem run_bind (h : Surroundings σ) (p : Program α) (f : α → Program β) (s : σ) :
    (p.bind f).run h s =
      match p.run h s with
      | (some a, s) => (f a).run h s
      | (none, s) => (none, s) := by
  induction p generalizing s with
  | done a => rfl
  | ask q next ih => simp only [bind, run, ih]
  | stuck => rfl

theorem run_bind_of_run {h : Surroundings σ} {p : Program α} {f : α → Program β} {s s' : σ} {a : α}
    (hp : p.run h s = (some a, s')) : (p >>= f).run h s = (f a).run h s' := by
  have split := run_bind h p f s
  rw [hp] at split
  exact split

/-! ## What a program can come to ask -/

/-- Every question that the program can come to ask, whatever it is answered, has the property. -/
def Asks (P : Ask → Prop) : Program α → Prop
  | done _ | stuck => True
  | ask q next => P q ∧ ∀ answer, (next answer).Asks P

variable {P Q : Ask → Prop}

theorem Asks.imp (hPQ : ∀ q, P q → Q q) {p : Program α} (h : p.Asks P) : p.Asks Q := by
  induction p with
  | done a => trivial
  | ask q next ih => exact ⟨hPQ q h.1, fun answer => ih answer (h.2 answer)⟩
  | stuck => trivial

theorem Asks.bind {p : Program α} {f : α → Program β} (hp : p.Asks P)
    (hf : ∀ a, (f a).Asks P) : (p.bind f).Asks P := by
  induction p with
  | done a => exact hf a
  | ask q next ih => exact ⟨hp.1, fun answer => ih answer (hp.2 answer)⟩
  | stuck => trivial

end Program

end Registrar
