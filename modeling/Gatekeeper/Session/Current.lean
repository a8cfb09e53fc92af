import Gatekeeper.Context

/-! Questions about the session of the current request. Without a session the answer is no. -/
namespace Gatekeeper.Session

def require (host : Host) : Process Value := do
  let session ← Context.session host
  if session.isNull then .fail .unauthorized else return session

def isAuthenticated (host : Host) : Process Bool := do
  return !(← Context.session host).isNull

/-- A list field of a session; whatever counts as no is empty. -/
def listed (host : Host) (session : Value) (name : String) : Process Value := do
  return (← host.get session (.str name)).orElse (.list [])

def ask (host : Host) (question : Value → Process Bool) : Process Bool := do
  let session ← Context.session host
  if session.isNull then return false
  question session

/-- The role itself counts first, then the additional roles. -/
def roleIn (host : Host) (session role : Value) : Process Bool := do
  if (← host.get session (.str "role")).equal role then return true
  .ofExcept ((← listed host session "roles").contains role)

def hasRole (host : Host) (role : Value) : Process Bool :=
  ask host (roleIn host · role)

def hasPermission (host : Host) (permission : Value) : Process Bool :=
  ask host fun session => do
    .ofExcept ((← listed host session "permissions").contains permission)

def allIn (granted : Value) : List Value → Except Fault Bool
  | [] => return true
  | permission :: rest => do
    if ← granted.contains permission then allIn granted rest else return false

def anyIn (granted : Value) : List Value → Except Fault Bool
  | [] => return false
  | permission :: rest => do
    if ← granted.contains permission then return true else anyIn granted rest

def hasAllPermissions (host : Host) (permissions : List Value) : Process Bool :=
  ask host fun session => do .ofExcept (allIn (← listed host session "permissions") permissions)

def hasAnyPermission (host : Host) (permissions : List Value) : Process Bool :=
  ask host fun session => do .ofExcept (anyIn (← listed host session "permissions") permissions)

end Gatekeeper.Session
