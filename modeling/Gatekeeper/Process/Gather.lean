import Gatekeeper.Process.Basic

/-! Concurrent tasks. They take turns in the order in which they were started; a turn lasts until
the task pauses or ends. -/
namespace Gatekeeper.Process

variable {α β : Type}

def turn (rest : Process α → Process β) : Process α → Process β
  | .done result => rest (.done result)
  | .fail fault => rest (.fail fault)
  | .ask .pause next => rest (next ())
  | .ask op next => .ask op fun answer => (next answer).turn rest

def beside (others : Process (List (Except Fault α))) :
    Process α → Process (List (Except Fault α))
  | .done result => others.bind fun results => .done (.ok result :: results)
  | .fail fault => others.bind fun results => .done (.error fault :: results)
  | .ask .pause next =>
    others.turn fun others => .ask .pause fun _ => beside others (next ())
  | .ask op next => .ask op fun answer => beside others (next answer)

def rounds : List (Process α) → Process (List (Except Fault α))
  | [] => .done []
  | task :: tasks => beside (rounds tasks) task

/-- Starts tasks, each with a copy of the current context, and waits for all of them. They begin
when the starter first pauses, and it takes two more turns to learn that the last one has ended. -/
def gather (tasks : List (Process α)) : Process (List (Except Fault α)) := do
  if tasks.isEmpty then return []
  let context ← request .context
  pause
  let results ← rounds (tasks.map (localize context))
  pauses 2
  return results

end Gatekeeper.Process
