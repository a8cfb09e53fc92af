import Gatekeeper.Host
import Gatekeeper.Proofs.Process.Trace

/-! Watching a host. Whatever its functions do, each call that the library makes is noted, and
nothing else is; so the notes of a run are the calls made in it. -/
namespace Gatekeeper

variable {α : Type} {s t : Surroundings} {trace : List Op}

namespace Process

def unnoted : Process α → Process α
  | .done result => .done result
  | .fail fault => .fail fault
  | .ask (.note _) next => (next ()).unnoted
  | .ask op next => .ask op fun answer => (next answer).unnoted

theorem callsOf_unnoted {process : Process α} {result : Except Fault α}
    (runs : Runs s process.unnoted trace result t) : callsOf trace = [] := by
  induction process generalizing s trace with
  | done value =>
    obtain ⟨rfl, -⟩ := runs_done_iff.mp runs
    rfl
  | fail fault =>
    obtain ⟨rfl, -⟩ := runs_fail_iff.mp runs
    rfl
  | ask op next ih =>
    cases op
    case note call => exact ih () runs
    all_goals
      obtain ⟨mid, rest, -, rfl, more⟩ := runs_ask_iff.mp runs
      exact show callsOf rest = [] from ih _ more

end Process

namespace Host

open Process

def watched (host : Host) (tell : Value → List Value → Call) : Host where
  call function arguments := do
    request (.note (tell function arguments))
    (host.call function arguments).unnoted
  resume function arguments := (host.resume function arguments).unnoted
  runner := host.runner
  yaml := host.yaml

def answering (answer : Value) : Host where
  call _ _ := .done answer
  resume _ _ := .done answer
  runner _ _ _ := .done (.inl answer)
  yaml _ := .error .badYaml

variable {host : Host} {tell : Value → List Value → Call} {function : Value}
  {arguments : List Value} {id : Nat} {name : String} {result : Except Fault Value}

theorem callsOf_invoke
    (runs : Runs s ((host.watched tell).invoke (.callback id name) arguments) trace result t) :
    callsOf trace = [tell (.callback id name) arguments] := by
  obtain ⟨mid, rest, -, rfl, more⟩ := runs_ask_iff.mp runs
  exact congrArg _ (callsOf_unnoted more)

theorem eq_of_mem_callsOf_apply
    (runs : Runs s ((host.watched tell).apply function arguments) trace result t) :
    ∀ call ∈ callsOf trace, call = tell function arguments := by
  cases function with
  | callback id name =>
    have calls : callsOf trace = [tell (.callback id name) arguments] := callsOf_invoke runs
    simp [calls]
  | _ =>
    obtain ⟨rfl, -⟩ := runs_fail_iff.mp runs
    simp [callsOf]

theorem callsOf_settle {value : Value}
    (runs : Runs s ((host.watched tell).settle value) trace result t) : callsOf trace = [] := by
  unfold settle at runs
  split at runs
  · exact callsOf_unnoted runs
  · obtain ⟨rfl, -⟩ := runs_done_iff.mp runs
    rfl

/-- Consulting a function of the host is calling it once, however often it then pauses. -/
theorem callsOf_consult
    (runs : Runs s ((host.watched tell).consult (.callback id name) arguments) trace result t) :
    callsOf trace = [tell (.callback id name) arguments] := by
  rcases runs_bind_iff.mp runs with
    ⟨first, second, value, mid, rfl, called, settled⟩ | ⟨_, -, called⟩
  · rw [callsOf_append, callsOf_invoke called, callsOf_settle settled, List.append_nil]
  · exact callsOf_invoke called

end Host

end Gatekeeper
