import Gatekeeper.Proofs.Context
import Gatekeeper.Proofs.Engine.Decision
import Gatekeeper.Proofs.Engine.Selection
import Gatekeeper.Proofs.Process.Crowd
import Gatekeeper.Proofs.Process.Watched

/-! Decisions among other tasks. A decision reads the configuration and the session before its
predicate can pause, and never again; so what other tasks do in between does not show in it. -/
namespace Gatekeeper.Engine

open Process

variable {host : Host} {config : Config} {rule : Rule} {path : String} {given : Option Value}
  {check function : Value} {arguments : Value → List Value} {s t : Surroundings} {trace : List Op}

/-- A decision by a predicate takes the configuration of its start, then a session, and then
consults the predicate once. -/
theorem runs_decide_predicate_iff {result : Except Fault Decision}
    (inForce : s.world.config = some config)
    (found : findRule config.protect path = .ok (some rule))
    (override : config.access.attr "check" = .ok check)
    (predicate : ∀ session, rule.predicate? check session = some (function, arguments session)) :
    Runs s (decide host .config path given) trace result t ↔
      ∃ rest, trace = .config :: rest ∧
        Runs s ((given.elim (Context.session host) .done).bind fun session =>
          (host.consult function (arguments session)).bind fun answer =>
            announce path (conclusion config check rule session answer.truthy)) rest result t := by
  rw [decide_config_eq, runs_config_bind_iff inForce]
  simp only [decide_eq_of_findRule found override, check_eq_of_predicate override (predicate _),
    bind_assoc, done_bind]

theorem of_runs_decide {decision : Decision} (inForce : s.world.config = some config)
    (found : findRule config.protect path = .ok (some rule))
    (override : config.access.attr "check" = .ok check)
    (predicate : ∀ session, rule.predicate? check session = some (function, arguments session))
    (runs : Runs s (decide host .config path given) trace (.ok decision) t) :
    ∃ session answer reading asked mid,
      Runs s (given.elim (Context.session host) .done) reading (.ok session) mid ∧
      Runs mid (host.consult function (arguments session)) asked (.ok answer) t ∧
      decision = conclusion config check rule session answer.truthy ∧
      trace = .config :: (reading ++ (asked ++ [.log (entry path decision)])) := by
  obtain ⟨rest, rfl, more⟩ := (runs_decide_predicate_iff inForce found override predicate).mp runs
  rcases runs_bind_iff.mp more with ⟨reading, rest, session, mid, rfl, read, more⟩ | ⟨_, ⟨⟩, -⟩
  rcases runs_bind_iff.mp more with ⟨asked, rest, answer, last, rfl, asking, more⟩ | ⟨_, ⟨⟩, -⟩
  obtain ⟨rfl, same, rfl⟩ := runs_announce_iff.mp more
  cases same
  exact ⟨session, answer, reading, asked, mid, read, asking, rfl, rfl⟩

theorem run_decide_of_consult_eq {session answer : Value} (inForce : s.world.config = some config)
    (found : findRule config.protect path = .ok (some rule))
    (override : config.access.attr "check" = .ok check)
    (predicate : ∀ session, rule.predicate? check session = some (function, arguments session))
    (provided : ∀ trace result t, Runs s (given.elim (Context.session host) .done) trace result t →
      result = .ok session ∧ t = s)
    (atOnce : host.consult function (arguments session) = .done answer) :
    (decide host .config path given).run s =
      (.ok (conclusion config check rule session answer.truthy), s) := by
  apply run_eq_of_runs
  intro trace outcome t runs
  obtain ⟨rest, -, more⟩ := (runs_decide_predicate_iff inForce found override predicate).mp runs
  rw [runs_bind_iff_of_settled fun _ _ _ read => (provided _ _ _ read).1, atOnce, done_bind] at more
  obtain ⟨reading, last, mid, read, announced, -⟩ := more
  obtain ⟨-, rfl⟩ := provided _ _ _ read
  exact (runs_announce_iff.mp announced).2

theorem runs_provided {session : Value} {mid : Surroundings} {reading : List Op}
    (inForce : s.world.config = some config)
    (direct : given.isSome = true ∨ config.getContext = .null)
    (read : Runs s (given.elim (Context.session host) .done) reading (.ok session) mid) :
    (callsOf reading = [] ∧ mid = s) ∧ ∀ (other : Host) trace result t,
      Runs s (given.elim (Context.session other) .done) trace result t →
        result = .ok session ∧ t = s := by
  cases given with
  | some value =>
    obtain ⟨rfl, same, rfl⟩ := runs_done_iff.mp read
    cases same
    exact ⟨⟨rfl, rfl⟩, fun _ _ _ _ runs => (runs_done_iff.mp runs).2⟩
  | none =>
    have own := direct.resolve_left (by simp)
    obtain ⟨rfl, same, rfl⟩ := (Context.runs_session_iff inForce own).mp read
    refine ⟨⟨rfl, rfl⟩, fun _ _ _ _ runs => ?_⟩
    rw [same]
    exact ((Context.runs_session_iff inForce own).mp runs).2

/-- A decision is that of its start. Whatever other tasks do while its predicate pauses, and however
often, it is the one that a predicate with the same answer would have led to in one go at the start;
and the predicate is called once, with the rule and the session of the start. -/
theorem decide_is_isolated (host : Host) (tell : Value → List Value → Call) (config : Config)
    (path : String) (given : Option Value) (rule : Rule) (check : Value) (id : Nat) (name : String)
    (arguments : Value → List Value) (crowd : Crowd (Record Decision)) (schedule : List Turn)
    (record : Record Decision) (decision : Decision)
    (started : crowd.task.process = (decide (host.watched tell) .config path given).record)
    (inForce : crowd.world.config = some config)
    (found : findRule config.protect path = .ok (some rule))
    (override : config.access.attr "check" = .ok check)
    (predicate : ∀ session,
      rule.predicate? check session = some (.callback id name, arguments session))
    (ended : (crowd.play (.own :: schedule)).task.process = .done record)
    (decided : record.result = .ok decision) :
    ∃ session answer reading asked mid t,
      Runs crowd.surroundings (given.elim (Context.session (host.watched tell)) .done) reading
        (.ok session) mid ∧
      Runs mid ((host.watched tell).consult (.callback id name) (arguments session)) asked
        (.ok answer) t ∧
      record.calls = callsOf reading ++ [tell (.callback id name) (arguments session)] ∧
      (given.isSome = true ∨ config.getContext = .null →
        callsOf reading = [] ∧ mid = crowd.surroundings) ∧
      decision = conclusion config check rule session answer.truthy ∧
      ∀ atomic : Host, atomic.consult (.callback id name) (arguments session) = .done answer →
        (decide atomic .config path (some session)).run crowd.surroundings =
          (.ok decision, crowd.surroundings) ∧
        (given.isSome = true ∨ config.getContext = .null →
          (decide atomic .config path given).run crowd.surroundings =
            (.ok decision, crowd.surroundings)) := by
  obtain ⟨trace, t, recorded⟩ := Crowd.runs_of_play ended
  rw [started] at recorded
  obtain ⟨full, outcome, runs, same⟩ := runs_of_runs_record recorded
  cases same
  obtain rfl : outcome = .ok decision := decided
  obtain ⟨session, answer, reading, asked, mid, read, asking, rfl, rfl⟩ :=
    of_runs_decide inForce found override predicate runs
  refine ⟨session, answer, reading, asked, mid, t, read, asking, ?_, ?_, rfl, ?_⟩
  · have once := Host.callsOf_consult asking
    simpa [callsOf] using once
  · intro direct
    exact (runs_provided inForce direct read).1
  · intro atomic atOnce
    constructor
    · exact run_decide_of_consult_eq inForce found override predicate
        (fun _ _ _ runs => (runs_done_iff.mp runs).2) atOnce
    · intro direct
      exact run_decide_of_consult_eq inForce found override predicate
        ((runs_provided inForce direct read).2 atomic) atOnce

def lateHost (answer : Value) : Host where
  call function arguments := .done (.pending 0 function arguments)
  resume _ _ := pause.bind fun _ => .done answer
  runner _ _ _ := .done (.inl answer)
  yaml _ := .error .badYaml

def checkedConfig : Config :=
  { loginPath := .str "/enter", protect := [staffRule],
    access := .hooks .defaultRole .defaultPermissions (.callback 0 "check") }

theorem checkedConfig_found :
    findRule checkedConfig.protect "/admin/users" = .ok (some staffRule) := by
  have isText : staffRule.pattern.IsText := rfl
  exact findRule_of_governs (by simp [checkedConfig, isText]) staffRule_governs

def resetMeanwhile : Crowd (Record Decision) where
  world := { config := some checkedConfig }
  task := ⟨(decide ((lateHost (.bool false)).watched fun _ => .mk "check") .config "/admin/users"
    none).record, .context staffSession⟩
  others := [⟨request (.setConfig (some {})), .null⟩]

def denial : Decision :=
  conclusion checkedConfig (.callback 0 "check") staffRule staffSession false

theorem resetMeanwhile_ends :
    (resetMeanwhile.play [.own, .other 0, .own]).task.process =
      .done ⟨.ok denial, [entry "/admin/users" denial],
        [⟨"check", [staffRule.toValue, staffSession]⟩]⟩ := by
  have opened : decide ((lateHost (.bool false)).watched fun _ => .mk "check")
      (.done checkedConfig) "/admin/users" none = _ :=
    decide_eq_of_findRule checkedConfig_found rfl
  simp only [resetMeanwhile, decide_config_eq]
  simp [Crowd.play, Crowd.take, Task.turn, Process.config, Process.record, recordAfter, untilPause,
    Surroundings.answer, opened]
  rfl

theorem reset_does_not_show :
    ∃ answer, (decide (Host.answering answer) .config "/admin/users" none).run
        resetMeanwhile.surroundings = (.ok denial, resetMeanwhile.surroundings) ∧
      denial.redirectTo = .str "/enter" := by
  obtain ⟨session, answer, reading, asked, mid, t, -, -, -, -, -, atomic⟩ :=
    decide_is_isolated (lateHost (.bool false)) (fun _ => .mk "check") checkedConfig "/admin/users"
      none staffRule (.callback 0 "check") 0 "check" (fun session => [staffRule.toValue, session])
      resetMeanwhile [.other 0, .own] _ denial rfl rfl checkedConfig_found rfl (fun _ => rfl)
      resetMeanwhile_ends rfl
  have atOnce : (Host.answering answer).consult (.callback 0 "check")
      [staffRule.toValue, session] = .done answer := by
    cases answer <;> rfl
  exact ⟨answer, (atomic (Host.answering answer) atOnce).2 (.inr rfl), rfl⟩

end Gatekeeper.Engine
