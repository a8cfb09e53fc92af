import Gatekeeper.Environment
import Gatekeeper.Host

/-! The configuration in force. It is replaced as a whole, and only by one that has been checked; an
object of the host that says it is one leaves none. -/
namespace Gatekeeper

namespace Settings

def ofFile (host : Host) (name : String) (entry : Document.Entry) : Except Fault Settings := do
  ofFileTable (← Document.load host.yaml name entry)

def ofValue (host : Host) (value : Value) : Process Settings :=
  match value, value.table? with
  | .object _ _, _ => do
    let access ← .ofExcept (accessOf (← get "access" []))
    let login ← get "login_path" [defaultLogin]
    let protect ← .ofExcept (rulesOf (← get "protect" []))
    let runner ← get "run_with_context" []
    let getContext ← get "get_context_store" []
    let setContext ← get "set_context_store" []
    return ⟨login, protect, access, runner, getContext, setContext⟩
  | _, some entries => .ofExcept (ofTable entries)
  | _, none => .fail .noAttribute
where
  get (name : String) (fallback : List Value) : Process Value :=
    host.method value "get" (.str name :: fallback)

def ofEnvironment : Process Settings := do
  match ← Environment.setting? Environment.ownStart "login_path" with
  | some path => return { loginPath := .str path }
  | none => return {}

end Settings

namespace Config

def announce (loginPath : Value) (rules : Nat) : Process Unit :=
  Process.log .info .configuration (announcement loginPath rules)

/-- Lets an object of the host take the place of the configuration. What it resolves to is none, so
none is in force from then on, but its login path and its rules are still announced. -/
def displace (host : Host) (given : Value) : Process Config := do
  let resolved ← host.method given "resolve" []
  Process.request (.setConfig none)
  let loginPath ← .ofExcept (resolved.attr "login_path")
  let rules ← .ofExcept (do (← resolved.attr "protect").items)
  announce loginPath rules.length
  .fail .noAttribute

def install (host : Host) (source : Source) : Process Config :=
  match source with
  | .raw (.object id attributes) => displace host (.object id attributes)
  | _ => do
    let config ← .ofExcept source.resolve
    Process.request (.setConfig (some config))
    announce config.loginPath config.protect.length
    return config

def configure (host : Host) (keywords : Table) : Process Config := do
  install host (.ready (← .ofExcept (Settings.ofKeywords keywords)))

def reset : Process Unit :=
  Process.request (.setConfig (some {}))

end Config

end Gatekeeper
