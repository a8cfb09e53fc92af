import Gatekeeper.Context
import Gatekeeper.Environment
import Gatekeeper.Session.Carrier

/-! Sessions of requests. A request reads its session from a store once, on entry, and runs in a
context that holds it; what is not a valid session counts as none. -/
namespace Gatekeeper.Session

variable {α : Type}

def malformed : String :=
  "Invalid session structure detected under '__session__'. Session will be ignored. " ++
    "Ensure set_session() is used to store a session with a valid user_id."

/-- The session in a store. A value that is not a valid session is passed over, with a warning
outside of production. -/
def read (host : Host) (store : Value) : Process Value := do
  if store.isNull then return .null
  let stored ← host.get store key
  if stored.isNull then return .null
  if isValid stored then return stored
  if !(← Environment.isProduction Environment.ownStart) then
    Process.log .warning .session malformed
  return .null

/-- Runs a request in the context of the session in its store. A runner of the host comes first,
then a context store of the host, then the context of the task. -/
def enter (host : Host) (store : Value) (next : Process α) : Process (Value ⊕ α) := do
  let context := Value.context (← read host store)
  let config ← Process.config
  if !config.runner.isNull then host.runWith config.runner context next
  else if !config.setContext.isNull then do
    Context.set host context
    return .inr (← next)
  else return .inr (← Context.within context next)

end Gatekeeper.Session
