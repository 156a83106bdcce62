import Registrar.Engine.Plan

/-! Sending the batches of a plan, the registry's before the ledger's. Neither failure keeps the
other batch from being sent. -/
namespace Registrar
set_option autoImplicit false

open Contract
open Program (observe)

structure Dispatcher where
  gateway : Gateway
  registry : Address
  delegation : Option Address

namespace Dispatcher

/-- Sends one batch and records for its identities how the attempt ended. -/
def sendBatch (d : Dispatcher) (authority : Authority) (target : Address) (data : Bytes)
    (identities : List PublicKey) (plan : Plan) : Program Plan := do
  let attempt ← d.gateway.sendAndConfirm authority.label target data
  observe (.dispatched authority identities.length attempt.status)
  return plan.applyStatus authority identities attempt.status

def sendRegistrations (d : Dispatcher) (plan : Plan) : Program Plan :=
  if plan.registryBatch.isEmpty then .done plan
  else
    d.sendBatch .registry d.registry (Registry.encodeBatch plan.registryBatch)
      (plan.registryBatch.map (·.pubkey)) plan

def sendDelegations (d : Dispatcher) (plan : Plan) : Program (Except Error Unit × Plan) :=
  if plan.delegationBatch.isEmpty then .done (.ok (), plan)
  else
    match d.delegation with
    | none => .done (.error (.missingContractAddress "delegation.address"), plan)
    | some ledger => do
      let plan ← d.sendBatch .delegationLedger ledger (Ledger.encodeBatch plan.delegationBatch)
        (plan.delegationBatch.map (·.pubkey)) plan
      return (.ok (), plan)

/-- At most one transaction for each authority. -/
def dispatch (d : Dispatcher) (plan : Plan) : Program (Except Error Unit × Plan) := do
  let plan ← d.sendRegistrations plan
  d.sendDelegations plan

end Dispatcher

end Registrar
