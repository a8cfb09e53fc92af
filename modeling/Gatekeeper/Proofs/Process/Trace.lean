import Gatekeeper.Process.Run

/-! What a task does among others, from its start to its end. While it pauses, the others may leave
any world behind, so whatever holds of all its runs holds under every schedule. -/
namespace Gatekeeper

variable {α β : Type} {config : Config} {s t : Surroundings} {trace : List Op}

/-- The surroundings in which a task may find itself after a request. Its context is its own; after
a pause it may find any world. -/
def Surroundings.Follows (s : Surroundings) : Op → Surroundings → Prop
  | .pause, t => t.context = s.context
  | op, t => t = (s.answer op).2

namespace Process

/-- `Runs s process trace result t`: started in `s`, the process makes the requests of the trace and
then ends with the result, in `t`. -/
inductive Runs : Surroundings → Process α → List Op → Except Fault α → Surroundings → Prop
  | done {s : Surroundings} {result : α} : Runs s (.done result) [] (.ok result) s
  | fail {s : Surroundings} {fault : Fault} : Runs s (.fail fault) [] (.error fault) s
  | ask {s mid t : Surroundings} {op : Op} {next : op.Answer → Process α} {trace : List Op}
      {result : Except Fault α} (follows : s.Follows op mid)
      (rest : Runs mid (next (s.answer op).1) trace result t) :
      Runs s (.ask op next) (op :: trace) result t

@[simp] theorem runs_done_iff {value : α} {result : Except Fault α} :
    Runs s (.done value) trace result t ↔ trace = [] ∧ result = .ok value ∧ t = s := by
  constructor
  · rintro ⟨⟩
    exact ⟨rfl, rfl, rfl⟩
  · rintro ⟨rfl, rfl, rfl⟩
    exact .done

@[simp] theorem runs_fail_iff {fault : Fault} {result : Except Fault α} :
    Runs s (.fail fault) trace result t ↔ trace = [] ∧ result = .error fault ∧ t = s := by
  constructor
  · rintro ⟨⟩
    exact ⟨rfl, rfl, rfl⟩
  · rintro ⟨rfl, rfl, rfl⟩
    exact .fail

theorem runs_ask_iff {op : Op} {next : op.Answer → Process α} {result : Except Fault α} :
    Runs s (.ask op next) trace result t ↔
      ∃ mid rest, s.Follows op mid ∧ trace = op :: rest ∧
        Runs mid (next (s.answer op).1) rest result t := by
  constructor
  · rintro ⟨⟩
    exact ⟨_, _, ‹_›, rfl, ‹_›⟩
  · rintro ⟨mid, rest, follows, rfl, runs⟩
    exact .ask follows runs

theorem runs_ask_iff_of_ne_pause {op : Op} (runsOn : op ≠ .pause) {next : op.Answer → Process α}
    {result : Except Fault α} :
    Runs s (.ask op next) trace result t ↔
      ∃ rest, trace = op :: rest ∧ Runs (s.answer op).2 (next (s.answer op).1) rest result t := by
  have follows : ∀ mid, s.Follows op mid ↔ mid = (s.answer op).2 := by
    intro mid
    cases op <;> first | exact Iff.rfl | exact absurd rfl runsOn
  simp [runs_ask_iff, follows]

theorem runs_bind_iff {process : Process α} {next : α → Process β} {result : Except Fault β} :
    Runs s (process.bind next) trace result t ↔
      (∃ first second value mid, trace = first ++ second ∧ Runs s process first (.ok value) mid ∧
        Runs mid (next value) second result t) ∨
      ∃ fault, result = .error fault ∧ Runs s process trace (.error fault) t := by
  induction process generalizing s trace with
  | done value =>
    simp only [done_bind, runs_done_iff]
    constructor
    · exact fun runs => .inl ⟨[], trace, value, s, rfl, ⟨rfl, rfl, rfl⟩, runs⟩
    · rintro (⟨_, second, _, _, rfl, ⟨rfl, same, rfl⟩, runs⟩ | ⟨fault, -, -, same, -⟩)
      · cases same
        exact runs
      · cases same
  | fail fault =>
    simp only [fail_bind, runs_fail_iff]
    constructor
    · rintro ⟨rfl, rfl, rfl⟩
      exact .inr ⟨fault, rfl, rfl, rfl, rfl⟩
    · rintro (⟨_, _, _, _, _, ⟨-, same, -⟩, -⟩ | ⟨_, rfl, rfl, same, rfl⟩)
      · cases same
      · cases same
        exact ⟨rfl, rfl, rfl⟩
  | ask op next ih =>
    simp only [ask_bind, runs_ask_iff, ih]
    constructor
    · rintro ⟨mid, rest, follows, rfl,
        ⟨first, second, value, between, rfl, runs, more⟩ | ⟨fault, rfl, runs⟩⟩
      · exact .inl ⟨op :: first, second, value, between, rfl,
          ⟨mid, first, follows, rfl, runs⟩, more⟩
      · exact .inr ⟨fault, rfl, mid, rest, follows, rfl, runs⟩
    · rintro (⟨_, second, value, between, rfl, ⟨mid, first, follows, rfl, runs⟩, more⟩ |
        ⟨fault, rfl, mid, rest, follows, rfl, runs⟩)
      · exact ⟨mid, first ++ second, follows, rfl,
          .inl ⟨first, second, value, between, rfl, runs, more⟩⟩
      · exact ⟨mid, rest, follows, rfl, .inr ⟨fault, rfl, runs⟩⟩

theorem runs_map_iff {process : Process α} {f : α → β} {result : Except Fault β} :
    Runs s (process.bind fun value => .done (f value)) trace result t ↔
      ∃ outcome, Runs s process trace outcome t ∧ result = outcome.map f := by
  rw [runs_bind_iff]
  constructor
  · rintro (⟨first, rest, value, mid, rfl, runs, ends⟩ | ⟨fault, rfl, runs⟩)
    · obtain ⟨rfl, rfl, rfl⟩ := runs_done_iff.mp ends
      exact ⟨.ok value, by simpa using runs, rfl⟩
    · exact ⟨.error fault, runs, rfl⟩
  · rintro ⟨outcome | value, runs, rfl⟩
    · exact .inr ⟨_, rfl, runs⟩
    · exact .inl ⟨trace, [], value, t, by simp, runs, .done⟩

@[simp] theorem ofExcept_ok (result : α) : ofExcept (.ok result) = .done result := rfl

@[simp] theorem ofExcept_error (fault : Fault) :
    (ofExcept (.error fault) : Process α) = .fail fault := rfl

theorem runs_config_bind_iff (inForce : s.world.config = some config) {next : Config → Process α}
    {result : Except Fault α} :
    Runs s (Process.config.bind next) trace result t ↔
      ∃ rest, trace = .config :: rest ∧ Runs s (next config) rest result t := by
  rw [Process.config, ask_bind, runs_ask_iff_of_ne_pause (by simp)]
  simp only [Surroundings.answer, inForce, done_bind]

theorem runs_request_bind_iff {op : Op} (runsOn : op ≠ .pause) {next : op.Answer → Process α}
    {result : Except Fault α} :
    Runs s ((request op).bind next) trace result t ↔
      ∃ rest, trace = op :: rest ∧ Runs (s.answer op).2 (next (s.answer op).1) rest result t := by
  rw [request, ask_bind, runs_ask_iff_of_ne_pause runsOn]
  rfl

theorem runs_bind_iff_of_settled {process : Process α} {value : α}
    (settled : ∀ trace result t, Runs s process trace result t → result = .ok value)
    {next : α → Process β} {result : Except Fault β} :
    Runs s (process.bind next) trace result t ↔
      ∃ first rest mid, Runs s process first (.ok value) mid ∧
        Runs mid (next value) rest result t ∧ trace = first ++ rest := by
  rw [runs_bind_iff]
  constructor
  · rintro (⟨first, rest, _, mid, rfl, before, after⟩ | ⟨fault, -, before⟩)
    · cases settled _ _ _ before
      exact ⟨first, rest, mid, before, after, rfl⟩
    · cases settled _ _ _ before
  · rintro ⟨first, rest, mid, before, after, rfl⟩
    exact .inl ⟨first, rest, value, mid, rfl, before, after⟩

theorem runs_bind_iff_of_reads {process : Process α} {steps : List Op} {value : α}
    (reads : ∀ trace result t, Runs s process trace result t ↔
      trace = steps ∧ result = .ok value ∧ t = s)
    {next : α → Process β} {result : Except Fault β} :
    Runs s (process.bind next) trace result t ↔
      ∃ rest, trace = steps ++ rest ∧ Runs s (next value) rest result t := by
  rw [runs_bind_iff_of_settled fun _ _ _ runs => ((reads _ _ _).mp runs).2.1]
  constructor
  · rintro ⟨first, rest, mid, before, after, rfl⟩
    obtain ⟨rfl, -, rfl⟩ := (reads _ _ _).mp before
    exact ⟨rest, rfl, after⟩
  · rintro ⟨rest, rfl, after⟩
    exact ⟨steps, rest, s, (reads _ _ _).mpr ⟨rfl, rfl, rfl⟩, after, rfl⟩

theorem runs_ofExcept_iff {outcome result : Except Fault α} :
    Runs s (.ofExcept outcome) trace result t ↔ trace = [] ∧ result = outcome ∧ t = s := by
  cases outcome <;> simp

theorem runs_attempt_iff {process : Process α} {result : Except Fault (Except Fault α)} :
    Runs s process.attempt trace result t ↔
      ∃ outcome, result = .ok outcome ∧ Runs s process trace outcome t := by
  induction process generalizing s trace with
  | done value =>
    simp only [attempt, runs_done_iff]
    constructor
    · rintro ⟨rfl, rfl, rfl⟩
      exact ⟨_, rfl, rfl, rfl, rfl⟩
    · rintro ⟨_, rfl, rfl, rfl, rfl⟩
      exact ⟨rfl, rfl, rfl⟩
  | fail fault =>
    simp only [attempt, runs_done_iff, runs_fail_iff]
    constructor
    · rintro ⟨rfl, rfl, rfl⟩
      exact ⟨_, rfl, rfl, rfl, rfl⟩
    · rintro ⟨_, rfl, rfl, rfl, rfl⟩
      exact ⟨rfl, rfl, rfl⟩
  | ask op next ih =>
    simp only [attempt, runs_ask_iff, ih]
    constructor
    · rintro ⟨mid, rest, follows, rfl, outcome, rfl, runs⟩
      exact ⟨outcome, rfl, mid, rest, follows, rfl, runs⟩
    · rintro ⟨outcome, rfl, mid, rest, follows, rfl, runs⟩
      exact ⟨mid, rest, follows, rfl, outcome, rfl, runs⟩

theorem runs_run (s : Surroundings) (process : Process α) :
    ∃ trace, Runs s process trace (process.run s).1 (process.run s).2 := by
  induction process generalizing s with
  | done value => exact ⟨[], .done⟩
  | fail fault => exact ⟨[], .fail⟩
  | ask op next ih =>
    obtain ⟨trace, runs⟩ := ih (s.answer op).1 (s.answer op).2
    refine ⟨op :: trace, .ask ?_ runs⟩
    cases op <;> rfl

/-- What all runs have in common, running by itself has. -/
theorem run_eq_of_runs {process : Process α} {result : Except Fault α}
    (settled : ∀ trace outcome t, Runs s process trace outcome t → outcome = result ∧ t = s) :
    process.run s = (result, s) := by
  obtain ⟨trace, runs⟩ := runs_run s process
  obtain ⟨same, unchanged⟩ := settled _ _ _ runs
  exact Prod.ext same unchanged

def Settles (s : Surroundings) (process : Process α) (value : α) : Prop :=
  ∀ trace result t, Runs s process trace result t → result = .ok value

@[simp] theorem settles_done_iff {found value : α} : Settles s (.done found) value ↔ found = value := by
  constructor
  · exact fun settles => Except.ok.inj (settles _ _ _ .done)
  · rintro rfl trace result t runs
    exact (runs_done_iff.mp runs).2.1

/-- There always is a run, so there is one value at most. -/
theorem Settles.unique {process : Process α} {one other : α} (settles : Settles s process one)
    (too : Settles s process other) : one = other := by
  obtain ⟨trace, runs⟩ := runs_run s process
  exact Except.ok.inj ((settles _ _ _ runs).symm.trans (too _ _ _ runs))

theorem Settles.bind {process : Process α} {next : α → Process β} {found : α} {value : β}
    (settles : Settles s process found) (rest : ∀ mid, Settles mid (next found) value) :
    Settles s (process.bind next) value := by
  intro trace result t runs
  obtain ⟨_, _, mid, -, more, -⟩ := (runs_bind_iff_of_settled settles).mp runs
  exact rest mid _ _ _ more

def logsOf (trace : List Op) : List LogEntry :=
  trace.filterMap fun
    | .log entry => some entry
    | _ => none

def callsOf (trace : List Op) : List Call :=
  trace.filterMap fun
    | .note call => some call
    | _ => none

@[simp] theorem callsOf_append (first second : List Op) :
    callsOf (first ++ second) = callsOf first ++ callsOf second :=
  List.filterMap_append

theorem runs_of_runs_recordAfter {process : Process α} {logs : List LogEntry} {calls : List Call}
    {result : Except Fault (Record α)}
    (runs : Runs s (process.recordAfter logs calls) trace result t) :
    ∃ full outcome, Runs s process full outcome t ∧
      result = .ok ⟨outcome, logs.reverse ++ logsOf full, calls.reverse ++ callsOf full⟩ := by
  induction process generalizing s trace logs calls with
  | done value =>
    obtain ⟨-, rfl, rfl⟩ := runs_done_iff.mp runs
    exact ⟨[], _, .done, by simp [logsOf, callsOf]⟩
  | fail fault =>
    obtain ⟨-, rfl, rfl⟩ := runs_done_iff.mp runs
    exact ⟨[], _, .fail, by simp [logsOf, callsOf]⟩
  | ask op next ih =>
    cases op
    case log entry =>
      obtain ⟨full, outcome, inner, rfl⟩ := ih () runs
      exact ⟨.log entry :: full, outcome, .ask rfl inner, by simp [logsOf, callsOf]⟩
    case note call =>
      obtain ⟨full, outcome, inner, rfl⟩ := ih () runs
      exact ⟨.note call :: full, outcome, .ask rfl inner, by simp [logsOf, callsOf]⟩
    all_goals
      obtain ⟨mid, rest, follows, rfl, more⟩ := runs_ask_iff.mp runs
      obtain ⟨full, outcome, inner, rfl⟩ := ih _ more
      exact ⟨_ :: full, outcome, .ask follows inner, by simp [logsOf, callsOf]⟩

theorem runs_of_runs_record {process : Process α} {result : Except Fault (Record α)}
    (runs : Runs s process.record trace result t) :
    ∃ full outcome, Runs s process full outcome t ∧
      result = .ok ⟨outcome, logsOf full, callsOf full⟩ :=
  runs_of_runs_recordAfter runs

end Process

end Gatekeeper
