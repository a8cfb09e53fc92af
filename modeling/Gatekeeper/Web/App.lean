import Gatekeeper.Config.Store
import Gatekeeper.Engine
import Gatekeeper.Session.Current
import Gatekeeper.Session.Scope

/-! Web applications. Layers lie around the endpoint of a request: one gives the request the context
of its session, another lets it pass or redirects it. -/
namespace Gatekeeper.Web

variable {α : Type}

structure Request where
  path : String
  store : Value

inductive Layer where
  | session
  | guard (status : Nat)
deriving DecidableEq, Repr

inductive Refusal where
  | plain
  | detailed
deriving DecidableEq, Repr

inductive Outcome (α : Type) where
  | reached (result : α)
  | refused (refusal : Refusal)
  | redirected (status : Nat) (target : Value)

def found : Nat := 302

def Outcome.status : Outcome α → Nat
  | .reached _ => 200
  | .refused _ => 401
  | .redirected status _ => status

def failed : Nat := 500

def answered (process : Process (Value ⊕ Outcome α)) : Process (Outcome α) := do
  match ← process with
  | .inr outcome => return outcome
  | .inl _ => .fail .wrongType

def Layer.around (host : Host) (request : Request) (redirect : Nat → Value → Process (Outcome α))
    (rest : Process (Outcome α)) : Layer → Process (Outcome α)
  | .session => answered (Session.enter host request.store rest)
  | .guard status => Engine.guard host request.path rest (redirect status)

structure App where
  /-- Outermost first. -/
  layers : List Layer
  /-- Whether every layer runs the rest in a task of its own. -/
  apart : Bool
  refusal : Option Refusal
  /-- Whether a redirection is raised through the layers, and answered only outside of them. -/
  raises : Bool

def recovered : Except Fault (Outcome α) → Except Fault (Outcome α)
  | .error (.redirection status target) => .ok (.redirected status target)
  | outcome => outcome

def caught (process : Process (Outcome α)) : Process (Outcome α) := do
  .ofExcept (recovered (← process.attempt))

namespace App

def endpoint (app : App) (work : Process α) : Process (Outcome α) := do
  match ← work.attempt with
  | .ok result => return .reached result
  | .error .unauthorized =>
    match app.refusal with
    | some refusal => return .refused refusal
    | none => .fail .unauthorized
  | .error fault => .fail fault

def redirect (app : App) (status : Nat) (target : Value) : Process (Outcome α) :=
  if app.raises then .fail (.redirection status target) else .done (.redirected status target)

def rest (app : App) (inner : Process (Outcome α)) : Process (Outcome α) :=
  if app.apart then inner.isolated else inner

def serve (host : Host) (app : App) (request : Request) (endpoint : Process (Outcome α)) :
    Process (Outcome α) :=
  let answer := app.layers.foldr
    (fun layer inner => layer.around host request app.redirect (app.rest inner)) endpoint
  if app.raises then caught answer else answer

def answer (host : Host) (app : App) (request : Request) (work : Process α) :
    Process (Outcome α) :=
  app.serve host request (app.endpoint work)

def bare : App where
  layers := []
  apart := true
  refusal := none
  raises := false

def add (app : App) (layer : Layer) : App :=
  { app with layers := layer :: app.layers }

def answering (app : App) (refusal : Option Refusal) : App :=
  { app with refusal := refusal }

/-- Adds what a configuration needs. Requests are guarded only if it has rules. The session is added
last, so that the guard runs in its context. -/
def extend (app : App) (refusal : Refusal) (config : Config) : App :=
  let guarded := if config.protect.isEmpty then app else app.add (.guard found)
  (guarded.add .session).answering (some refusal)

def redirecting (refusal : Option Refusal) (status : Nat) : App :=
  ((bare.add (.guard status)).add .session).answering refusal

def joined : App where
  layers := [.session, .guard found]
  apart := false
  refusal := none
  raises := true

/-- Puts a configuration in force and extends an application by what it needs. The application is
given back as it is then, also if the configuration is refused. -/
def install (app : App) (name : String) (refusal : Refusal) (configure : Process Config) :
    Process (Except Fault Config × App) := do
  match ← configure.attempt with
  | .ok config =>
    Process.log .debug .installation ("SessionKit installed on " ++ name)
    return (.ok config, app.extend refusal config)
  | .error fault => return (.error fault, app)

end App

end Gatekeeper.Web
