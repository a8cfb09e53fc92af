import Gatekeeper.Config.Basic

/-! Programs that share a configuration, an environment and storage of the host, and that may pause.
A program is the tree of what it asks for, one branch for each answer; what it means under any
schedule is a function on that tree. -/
namespace Gatekeeper

inductive Level where
  | debug
  | info
  | warning
deriving DecidableEq, Repr

inductive Channel where
  | configuration
  | guard
  | session
  | server
  | installation
deriving DecidableEq, Repr

structure LogEntry where
  level : Level
  channel : Channel
  message : String

structure Call where
  name : String
  arguments : List Value

/-- What a program may ask for. Every task has a context of its own; all else is shared. -/
inductive Op where
  | config
  | setConfig (config : Option Config)
  | context
  | setContext (context : Value)
  | environment (name : String)
  | setEnvironment (name : String) (value : Option String)
  | stored (name : String)
  | store (name : String) (value : Value)
  | held
  | hold (value : Value)
  | log (entry : LogEntry)
  | note (call : Call)
  | pause

@[reducible] def Op.Answer : Op → Type
  | .config => Option Config
  | .context => Value
  | .environment _ => Option String
  | .stored _ => Option Value
  | .held => Value
  | _ => Unit

inductive Process (α : Type) where
  | done (result : α)
  | fail (fault : Fault)
  | ask (op : Op) (next : op.Answer → Process α)

namespace Process

variable {α β γ : Type}

def bind (first : Process α) (rest : α → Process β) : Process β :=
  match first with
  | .done result => rest result
  | .fail fault => .fail fault
  | .ask op next => .ask op fun answer => (next answer).bind rest

instance : Monad Process where
  pure := .done
  bind := bind

@[simp] theorem pure_eq (result : α) : (pure result : Process α) = .done result := rfl

@[simp] theorem bind_eq (first : Process α) (rest : α → Process β) :
    first >>= rest = first.bind rest := rfl

@[simp] theorem done_bind (result : α) (rest : α → Process β) :
    (Process.done result).bind rest = rest result := rfl

@[simp] theorem fail_bind (fault : Fault) (rest : α → Process β) :
    (Process.fail fault).bind rest = .fail fault := rfl

@[simp] theorem ask_bind (op : Op) (next : op.Answer → Process α) (rest : α → Process β) :
    (Process.ask op next).bind rest = .ask op fun answer => (next answer).bind rest := rfl

@[simp] theorem bind_done (process : Process α) : process.bind .done = process := by
  induction process with
  | done => rfl
  | fail => rfl
  | ask op next ih => simp only [ask_bind, ih]

theorem bind_assoc (process : Process α) (first : α → Process β) (second : β → Process γ) :
    (process.bind first).bind second = process.bind fun result => (first result).bind second := by
  induction process with
  | done => rfl
  | fail => rfl
  | ask op next ih => simp only [ask_bind, ih]

def request (op : Op) : Process op.Answer :=
  .ask op .done

/-- The configuration in force. What is no configuration has none of its parts. -/
def config : Process Config :=
  .ask .config fun
    | some config => .done config
    | none => .fail .noAttribute

def ofExcept : Except Fault α → Process α
  | .ok result => .done result
  | .error fault => .fail fault

def attempt : Process α → Process (Except Fault α)
  | .done result => .done (.ok result)
  | .fail fault => .done (.error fault)
  | .ask op next => .ask op fun answer => (next answer).attempt

structure Record (α : Type) where
  result : Except Fault α
  logs : List LogEntry
  calls : List Call

def recordAfter (logs : List LogEntry) (calls : List Call) : Process α → Process (Record α)
  | .done result => .done ⟨.ok result, logs.reverse, calls.reverse⟩
  | .fail fault => .done ⟨.error fault, logs.reverse, calls.reverse⟩
  | .ask (.log entry) next => (next ()).recordAfter (entry :: logs) calls
  | .ask (.note call) next => (next ()).recordAfter logs (call :: calls)
  | .ask op next => .ask op fun answer => (next answer).recordAfter logs calls

def record (process : Process α) : Process (Record α) :=
  process.recordAfter [] []

def localize (context : Value) : Process α → Process α
  | .done result => .done result
  | .fail fault => .fail fault
  | .ask .context next => (next context).localize context
  | .ask (.setContext changed) next => (next ()).localize changed
  | .ask op next => .ask op fun answer => (next answer).localize context

def isolated (process : Process α) : Process α := do
  process.localize (← request .context)

def log (level : Level) (channel : Channel) (message : String) : Process Unit :=
  request (.log ⟨level, channel, message⟩)

def pause : Process Unit :=
  request .pause

def pauses : Nat → Process Unit
  | 0 => .done ()
  | times + 1 => pause.bind fun _ => pauses times

end Process

end Gatekeeper
