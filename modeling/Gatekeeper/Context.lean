import Gatekeeper.Host

/-! The context of the current request. Each task has its own, unless the configuration names
functions of the host that keep it elsewhere. -/
namespace Gatekeeper.Context

variable {α : Type}

/-- Runs a body in a context and restores the one before, however the body ends. -/
def within (context : Value) (body : Process α) : Process α := do
  let before ← Process.request .context
  Process.request (.setContext context)
  let result ← body.attempt
  Process.request (.setContext before)
  .ofExcept result

def current (host : Host) : Process Value := do
  let config ← Process.config
  if config.getContext.isNull then Process.request .context
  else host.invoke config.getContext []

def set (host : Host) (context : Value) : Process Unit := do
  let config ← Process.config
  if config.setContext.isNull then Process.request (.setContext context)
  else
    let _ ← host.invoke config.setContext [context]

def session (host : Host) : Process Value := do
  let context ← current host
  if context.isNull then return .null
  .ofExcept (context.attr "session")

end Gatekeeper.Context
