import Gatekeeper.Process.Basic

/-! Running a program by itself. -/
namespace Gatekeeper

structure World where
  config : Option Config := some {}
  environment : List (String × String) := []
  stored : List (String × Value) := []
  held : Value := .null

def rebind {α : Type} (name : String) (value : α) (bindings : List (String × α)) :
    List (String × α) :=
  (name, value) :: bindings.filter fun binding => binding.1 != name

namespace World

def setEnvironment (world : World) (name : String) : Option String → World
  | some value => { world with environment := rebind name value world.environment }
  | none =>
    { world with environment := world.environment.filter fun binding => binding.1 != name }

def store (world : World) (name : String) (value : Value) : World :=
  { world with stored := rebind name value world.stored }

end World

structure Surroundings where
  world : World := {}
  context : Value := .null

namespace Surroundings

/-- The answer to a request, and the surroundings after it. A pause with no other task changes
nothing. -/
def answer (surroundings : Surroundings) : (op : Op) → op.Answer × Surroundings
  | .config => (surroundings.world.config, surroundings)
  | .setConfig config =>
    ((), { surroundings with world := { surroundings.world with config := config } })
  | .context => (surroundings.context, surroundings)
  | .setContext context => ((), { surroundings with context := context })
  | .environment name => (surroundings.world.environment.lookup name, surroundings)
  | .setEnvironment name value =>
    ((), { surroundings with world := surroundings.world.setEnvironment name value })
  | .stored name => (surroundings.world.stored.lookup name, surroundings)
  | .store name value =>
    ((), { surroundings with world := surroundings.world.store name value })
  | .held => (surroundings.world.held, surroundings)
  | .hold value =>
    ((), { surroundings with world := { surroundings.world with held := value } })
  | .log _ => ((), surroundings)
  | .note _ => ((), surroundings)
  | .pause => ((), surroundings)

end Surroundings

namespace Process

variable {α : Type}

def run (surroundings : Surroundings) : Process α → Except Fault α × Surroundings
  | .done result => (.ok result, surroundings)
  | .fail fault => (.error fault, surroundings)
  | .ask op next => (next (surroundings.answer op).1).run (surroundings.answer op).2

end Process

end Gatekeeper
