import Gatekeeper.Proofs.Process.Trace

/-! Tasks that take turns in any order. A schedule says whose turn it is; a turn lasts until the
task pauses or ends. One task is singled out, and all that the others do to it is to change the
world while it pauses. -/
namespace Gatekeeper

variable {α : Type}

namespace Process

def untilPause (s : Surroundings) : Process α → Process α × Surroundings
  | .done result => (.done result, s)
  | .fail fault => (.fail fault, s)
  | .ask .pause next => (next (), s)
  | .ask op next => (next (s.answer op).1).untilPause (s.answer op).2

end Process

structure Task (α : Type) where
  process : Process α
  context : Value

def Task.turn (world : World) (task : Task α) : Task α × World :=
  let (rest, after) := task.process.untilPause ⟨world, task.context⟩
  (⟨rest, after.context⟩, after.world)

/-- A task among others that share the world with it. What these end with is of no concern. -/
structure Crowd (α : Type) where
  world : World
  task : Task α
  others : List (Task Unit)

inductive Turn where
  | own
  | other (place : Nat)
deriving DecidableEq, Repr

namespace Crowd

def surroundings (crowd : Crowd α) : Surroundings :=
  ⟨crowd.world, crowd.task.context⟩

def take (crowd : Crowd α) : Turn → Crowd α
  | .own =>
    let (task, world) := crowd.task.turn crowd.world
    { crowd with world := world, task := task }
  | .other place =>
    match crowd.others[place]? with
    | some other =>
      let (other, world) := other.turn crowd.world
      { crowd with world := world, others := crowd.others.set place other }
    | none => crowd

def play (crowd : Crowd α) (schedule : List Turn) : Crowd α :=
  schedule.foldl take crowd

@[simp] theorem take_other_task (crowd : Crowd α) (place : Nat) :
    (crowd.take (.other place)).task = crowd.task := by
  simp only [take]
  split <;> rfl

end Crowd

namespace Process

theorem runs_of_untilPause {s t : Surroundings} {process : Process α} {result : α} {world : World}
    {trace : List Op}
    (runs : Runs ⟨world, (process.untilPause s).2.context⟩ (process.untilPause s).1 trace
      (.ok result) t) :
    ∃ trace t, Runs s process trace (.ok result) t := by
  induction process generalizing s with
  | done value =>
    obtain ⟨-, same, -⟩ := runs_done_iff.mp runs
    cases same
    exact ⟨[], s, .done⟩
  | fail fault =>
    obtain ⟨-, same, -⟩ := runs_fail_iff.mp runs
    cases same
  | ask op next ih =>
    cases op
    case pause =>
      have follows : s.Follows .pause ⟨world, s.context⟩ := rfl
      exact ⟨.pause :: trace, t, .ask follows runs⟩
    all_goals
      obtain ⟨trace, t, inner⟩ := ih _ runs
      exact ⟨_ :: trace, t, .ask rfl inner⟩

end Process

namespace Crowd

open Process

/-- A task that has ended by some schedule has done so by a run of its own, which began in the world
that it found at its next turn. -/
theorem exists_runs_of_play {crowd : Crowd α} {schedule : List Turn} {result : α}
    (ended : (crowd.play schedule).task.process = .done result) :
    ∃ world trace t, Runs ⟨world, crowd.task.context⟩ crowd.task.process trace (.ok result) t := by
  induction schedule generalizing crowd with
  | nil =>
    have here : crowd.task.process = .done result := ended
    rw [here]
    exact ⟨crowd.world, [], _, .done⟩
  | cons turn rest ih =>
    obtain ⟨world, trace, t, runs⟩ := @ih (crowd.take turn) ended
    cases turn with
    | own => exact ⟨crowd.world, runs_of_untilPause runs⟩
    | other place =>
      rw [take_other_task] at runs
      exact ⟨world, trace, t, runs⟩

theorem runs_of_play {crowd : Crowd α} {schedule : List Turn} {result : α}
    (ended : (crowd.play (.own :: schedule)).task.process = .done result) :
    ∃ trace t, Runs crowd.surroundings crowd.task.process trace (.ok result) t := by
  have later : ((crowd.take .own).play schedule).task.process = .done result := ended
  obtain ⟨world, trace, t, runs⟩ := exists_runs_of_play later
  exact runs_of_untilPause runs

end Crowd

end Gatekeeper
