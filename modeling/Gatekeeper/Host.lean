import Gatekeeper.Document.File
import Gatekeeper.Process.Basic

/-! Calling functions of the host. What such a function does is up to the host: any program. -/
namespace Gatekeeper

/-- The meaning of the functions of a host application, and the reader of YAML that it comes with. -/
structure Host where
  call : (function : Value) → (arguments : List Value) → Process Value
  resume : (function : Value) → (arguments : List Value) → Process Value
  /-- Lets a function run a body in a context. The result is that of the body, or one of its own. -/
  runner : {α : Type} → (function context : Value) → (body : Process α) → Process (Value ⊕ α)
  yaml : Document.Stream → Except Fault Value

namespace Host

def apply (host : Host) (function : Value) (arguments : List Value) : Process Value :=
  match function with
  | .callback _ _ => host.call function arguments
  | _ => .fail .wrongType

def method (host : Host) (value : Value) (name : String) (arguments : List Value) :
    Process Value := do
  host.apply (← .ofExcept (value.attr name)) arguments

def get (host : Host) (value key : Value) : Process Value :=
  match value with
  | .object _ _ => host.method value "get" [key]
  | _ => .ofExcept (value.get key)

/-- The entries of a value. An object of the host is asked for its keys, and since there is nothing
under any key it must not have one. -/
def entries (host : Host) (value : Value) : Process Table :=
  match value.attr? "keys", value.table? with
  | _, some entries => .done entries
  | none, none => .fail .wrongType
  | some function, none => do
    let keys ← .ofExcept (← host.apply function []).items
    if keys.isEmpty then return [] else .fail .wrongType

def role (host : Host) (session : Value) : Process Value :=
  if session.truthy then host.get session (.str "role") else .done .null

def permissions (host : Host) (session : Value) : Process Value :=
  if session.truthy then do
    let granted ← host.get session (.str "permissions")
    .list <$> .ofExcept (granted.orElse (.list [])).items
  else .done (.list [])

def invoke (host : Host) (function : Value) (arguments : List Value) : Process Value :=
  match function, arguments with
  | .defaultRole, [session] => host.role session
  | .defaultPermissions, [session] => host.permissions session
  | _, _ => host.apply function arguments

def settle (host : Host) : Value → Process Value
  | .pending _ function arguments => host.resume function arguments
  | value => .done value

def consult (host : Host) (function : Value) (arguments : List Value) : Process Value := do
  host.settle (← host.invoke function arguments)

def runWith {α : Type} (host : Host) (function context : Value) (body : Process α) :
    Process (Value ⊕ α) :=
  match function with
  | .callback _ _ => host.runner function context body
  | _ => .fail .wrongType

end Host

end Gatekeeper
