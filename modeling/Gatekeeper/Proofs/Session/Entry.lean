import Gatekeeper.Proofs.Config.Accepted
import Gatekeeper.Proofs.Context
import Gatekeeper.Proofs.Engine.Decision
import Gatekeeper.Proofs.Engine.Selection
import Gatekeeper.Proofs.Environment
import Gatekeeper.Proofs.Process.Watched
import Gatekeeper.Session.Scope

/-! Entering a request. A request whose store holds no valid session runs without one, wherever it
is entered from, so that rules which ask for a session send it away. -/
namespace Gatekeeper

open Process

variable {α : Type} {host : Host} {config : Config} {s t : Surroundings} {trace : List Op}

namespace Engine

variable {rule : Rule} {path : String}

theorem runs_guard_anonymous_iff {next : Process α} {redirect : Value → Process α}
    {result : Except Fault α} (inForce : s.world.config = some config)
    (own : config.getContext = .null) (anonymous : s.context = .context .null)
    (unset : config.access.attr "check" = .ok .null)
    (found : findRule config.protect path = .ok (some rule)) (notCustom : rule.kind ≠ .allow) :
    Runs s (guard host path next redirect) trace result t ↔
      ∃ inner, Runs s (redirect (rule.redirectTo.orElse config.loginPath)) inner result t ∧
        trace = [.config, .config, .context,
          .log (entry path (conclusion config .null rule .null false))] ++ inner := by
  have decided : ∀ trace result t, Runs s (decide host .config path none) trace result t ↔
      trace = [.config, .config, .context,
        .log (entry path (conclusion config .null rule .null false))] ∧
      result = .ok (conclusion config .null rule .null false) ∧ t = s := by
    intro trace result t
    have session : ∀ trace result t, Runs s (Context.session host) trace result t ↔
        trace = [.config, .context] ∧ result = .ok .null ∧ t = s := by
      intro trace result t
      rw [Context.runs_session_iff inForce own, anonymous]
      rfl
    rw [decide_config_eq, runs_config_bind_iff inForce]
    simp only [decide_eq_of_findRule found unset, Option.elim_none, runs_bind_iff_of_reads session,
      check_anonymous unset notCustom, done_bind, runs_announce_iff]
    constructor
    · rintro ⟨_, rfl, _, rfl, rfl, rfl, rfl⟩
      exact ⟨rfl, rfl, rfl⟩
    · rintro ⟨rfl, rfl, rfl⟩
      exact ⟨_, rfl, _, rfl, rfl, rfl, rfl⟩
  rw [guard, bind_eq, runs_bind_iff_of_reads decided]
  constructor
  · rintro ⟨inner, rfl, runs⟩
    exact ⟨inner, runs, rfl⟩
  · rintro ⟨inner, runs, rfl⟩
    exact ⟨inner, rfl, runs⟩

end Engine

namespace Session

/-- There is no store, or it has no valid session in its slot. A store that is an object of the host
may do as it likes when it is asked, but it leaves the configuration and the context alone. -/
def Vacant (host : Host) (store : Value) (s : Surroundings) : Prop :=
  store = .null ∨ ∀ trace result t, Runs s (host.get store key) trace result t →
    (∃ found, result = .ok found ∧ isValid found = false) ∧
      t.world.config = s.world.config ∧ t.context = s.context

theorem get_eq_of_table {store : Value} {entries : Table} (readable : store.table? = some entries) :
    host.get store key = .done ((Table.find entries key).getD .null) := by
  have plain : host.get store key = .ofExcept (store.get key) := by
    cases store with
    | object => cases readable
    | _ => rfl
  rw [plain, Value.get, readable]
  rfl

theorem vacant_of_table {store : Value} {entries : Table} (readable : store.table? = some entries)
    (lacks : isValid ((Table.find entries key).getD .null) = false) : Vacant host store s := by
  refine .inr fun trace result t runs => ?_
  rw [get_eq_of_table readable] at runs
  obtain ⟨-, rfl, rfl⟩ := runs_done_iff.mp runs
  exact ⟨⟨_, rfl, lacks⟩, rfl, rfl⟩

def warning : Process Value := do
  if !(← Environment.isProduction Environment.ownStart) then
    Process.log .warning .session malformed
  return .null

/-- What is asked for when a value is passed over: the mode, and outside of production the log. -/
def complaint (world : World) : List Op :=
  .environment "SESSIONKIT_ENV" ::
    if world.InProduction then [] else [.log ⟨.warning, .session, malformed⟩]

theorem callsOf_complaint {world : World} : callsOf (complaint world) = [] := by
  unfold complaint
  split <;> rfl

theorem logsOf_complaint {world : World} :
    logsOf (complaint world) =
      if world.InProduction then [] else [⟨.warning, .session, malformed⟩] := by
  unfold complaint
  split <;> rfl

theorem runs_warning_iff {result : Except Fault Value} :
    Runs s warning trace result t ↔ trace = complaint s.world ∧ result = .ok .null ∧ t = s := by
  have logged : ∀ rest, Runs s ((log .warning .session malformed).bind fun _ => .done Value.null)
      rest result t ↔
      rest = [.log ⟨.warning, .session, malformed⟩] ∧ result = .ok .null ∧ t = s := by
    intro rest
    rw [log, runs_request_bind_iff (by simp)]
    simp [Surroundings.answer]
  rw [warning, bind_eq, runs_bind_iff_of_reads fun _ _ _ => Environment.runs_isProduction_iff]
  by_cases production : s.world.InProduction
  · simp [complaint, production]
  · simp [complaint, production, logged]

theorem of_runs_warning {result : Except Fault Value} (runs : Runs s warning trace result t) :
    result = .ok .null ∧ t = s ∧ callsOf trace = [] := by
  obtain ⟨rfl, rfl, rfl⟩ := runs_warning_iff.mp runs
  exact ⟨rfl, rfl, callsOf_complaint⟩

theorem read_of_table {store : Value} {entries : Table} (readable : store.table? = some entries) :
    read host store = if ((Table.find entries key).getD .null).isNull then .done .null
      else if isValid ((Table.find entries key).getD .null) then
        .done ((Table.find entries key).getD .null)
      else warning := by
  have present : store.isNull = false := by cases store <;> first | rfl | cases readable
  simp only [read, present, Bool.false_eq_true, if_false, get_eq_of_table readable, bind_eq, done_bind]
  rfl

theorem of_runs_read {store : Value} (vacant : Vacant host store s)
    {result : Except Fault Value} (runs : Runs s (read host store) trace result t) :
    result = .ok .null ∧ t.world.config = s.world.config ∧ t.context = s.context ∧
      (callsOf trace = [] ∨ ∃ asked outcome mid,
        Runs s (host.get store key) asked outcome mid ∧ callsOf trace = callsOf asked) := by
  by_cases absent : store = .null
  · obtain ⟨rfl, rfl, rfl⟩ : trace = [] ∧ result = .ok .null ∧ t = s := by
      simpa [read, absent] using runs
    exact ⟨rfl, rfl, rfl, .inl rfl⟩
  have reads := vacant.resolve_left absent
  simp only [read, Value.isNull_iff, absent, if_false, bind_eq] at runs
  rcases runs_bind_iff.mp runs with
    ⟨asked, rest, found, mid, rfl, asking, more⟩ | ⟨fault, rfl, asking⟩
  · obtain ⟨⟨value, same, lacks⟩, config, context⟩ := reads asked _ mid asking
    cases same
    by_cases missing : found = .null
    · obtain ⟨rfl, rfl, rfl⟩ : rest = [] ∧ result = .ok .null ∧ t = mid := by
        simpa [missing] using more
      exact ⟨rfl, config, context, .inr ⟨asked, _, _, asking, by simp⟩⟩
    · simp only [Value.isNull_iff, missing, if_false, lacks] at more
      obtain ⟨rfl, rfl, quiet⟩ := of_runs_warning more
      exact ⟨rfl, config, context, .inr ⟨asked, _, _, asking, by simp [quiet]⟩⟩
  · obtain ⟨⟨value, same, -⟩, -⟩ := reads trace _ t asking
    cases same

theorem callsOf_get {tell : Value → List Value → Call} {store : Value}
    {result : Except Fault Value}
    (runs : Runs s ((host.watched tell).get store key) trace result t) :
    ∀ call ∈ callsOf trace, ∃ function, store.attr? "get" = some function ∧
      call = tell function [key] := by
  cases store with
  | object id attributes =>
    simp only [Host.get, Host.method, Value.attr, bind_eq] at runs
    split at runs
    next function found =>
      intro call mem
      exact ⟨function, found, Host.eq_of_mem_callsOf_apply runs call mem⟩
    · obtain ⟨rfl, -⟩ := runs_fail_iff.mp runs
      simp [callsOf]
  | _ =>
    simp only [Host.get, runs_ofExcept_iff] at runs
    simp [runs.1, callsOf]

theorem runs_enter_iff {store : Value} {next : Process α} {result : Except Fault (Value ⊕ α)}
    (vacant : Vacant host store s) (inForce : s.world.config = some config)
    (noRunner : config.runner = .null) (noSetter : config.setContext = .null) :
    Runs s (enter host store next) trace result t ↔
      ∃ reading entered inner answer mid, Runs s (read host store) reading (.ok .null) entered ∧
        Runs ⟨entered.world, .context .null⟩ next inner answer mid ∧
        trace = reading ++ .config :: .context :: .setContext (.context .null) ::
          (inner ++ [.setContext s.context]) ∧
        result = answer.map .inr ∧ t = ⟨mid.world, s.context⟩ := by
  simp only [enter, bind_eq, pure_eq]
  rw [runs_bind_iff_of_settled fun _ _ _ runs => (of_runs_read vacant runs).1]
  have entered : ∀ reading found, Runs s (read host store) reading (.ok .null) found →
      found.world.config = some config ∧ found.context = s.context := by
    intro reading found asking
    obtain ⟨-, same, context, -⟩ := of_runs_read vacant asking
    exact ⟨same.trans inForce, context⟩
  constructor
  · rintro ⟨reading, rest, found, asking, more, rfl⟩
    obtain ⟨still, context⟩ := entered reading found asking
    simp only [runs_config_bind_iff still, noRunner, noSetter, Value.isNull_null, Bool.not_true,
      Bool.false_eq_true, if_false, runs_map_iff, Context.runs_within_iff, context] at more
    obtain ⟨_, rfl, answer, ⟨inner, mid, runs, rfl, rfl⟩, rfl⟩ := more
    exact ⟨reading, found, inner, answer, mid, asking, runs, rfl, rfl, rfl⟩
  · rintro ⟨reading, found, inner, answer, mid, asking, runs, rfl, rfl, rfl⟩
    obtain ⟨still, context⟩ := entered reading found asking
    refine ⟨reading, _, found, asking, ?_, rfl⟩
    simp only [runs_config_bind_iff still, noRunner, noSetter, Value.isNull_null, Bool.not_true,
      Bool.false_eq_true, if_false, runs_map_iff, Context.runs_within_iff, context]
    exact ⟨_, rfl, answer, ⟨inner, mid, runs, rfl, rfl⟩, rfl⟩

/-- No valid session, no entry: whatever surrounds it, a request for what a rule guards runs in a
context of its own without a session, and all that it comes to is one redirect. Its handler does not
matter, and of the host only the store itself is asked. -/
theorem enter_guard_fails_closed (host : Host) (tell : Value → List Value → Call) (source : Source)
    (config : Config) (rule : Rule) (path : String) (store : Value) (next : Process α)
    (redirect : Value → Process α) (s : Surroundings)
    (accepted : source.resolve = .ok config) (inForce : s.world.config = some config)
    (unset : config.access.attr "check" = .ok .null)
    (own : config.runner = .null ∧ config.getContext = .null ∧ config.setContext = .null)
    (governs : rule.Governs config.protect path) (notCustom : rule.kind ≠ .allow)
    (vacant : Vacant (host.watched tell) store s) :
    (∃ entry, ∀ trace result t,
      Runs s (enter (host.watched tell) store (Engine.guard (host.watched tell) path next redirect))
        trace result t ↔
      ∃ reading entered inner answer mid,
        Runs s (read (host.watched tell) store) reading (.ok .null) entered ∧
        Runs ⟨entered.world, .context .null⟩
          (redirect (if rule.redirectTo.isNull then config.loginPath else rule.redirectTo))
          inner answer mid ∧
        trace = reading ++ [.config, .context, .setContext (.context .null), .config, .config,
          .context, .log entry] ++ inner ++ [.setContext s.context] ∧
        result = answer.map .inr ∧ t = ⟨mid.world, s.context⟩) ∧
    ∀ reading found, Runs s (read (host.watched tell) store) reading (.ok .null) found →
      ∀ call ∈ callsOf reading, ∃ function, store.attr? "get" = some function ∧
        call = tell function [key] := by
  have valid := Source.valid_of_resolve accepted
  have found : findRule config.protect path = .ok (some rule) :=
    findRule_of_governs (fun rule mem => Pattern.isText_of_isValid (valid rule mem).pattern) governs
  have target := (valid rule governs.mem).orElse_eq config.loginPath
  -- The decision is made in the context of the request, not in the one around it.
  have guarded : ∀ (within : Surroundings), within.world.config = some config → ∀ trace answer mid,
      Runs ⟨within.world, .context .null⟩ (Engine.guard (host.watched tell) path next redirect)
        trace answer mid ↔ _ := fun within still trace answer mid =>
    Engine.runs_guard_anonymous_iff still own.2.1 rfl unset found notCustom
  constructor
  · refine ⟨Engine.entry path (Engine.conclusion config .null rule .null false), ?_⟩
    intro trace result t
    rw [runs_enter_iff vacant inForce own.1 own.2.2, ← target]
    constructor
    · rintro ⟨reading, within, _, answer, mid, asking, runs, rfl, rfl, rfl⟩
      have still := (of_runs_read vacant asking).2.1.trans inForce
      obtain ⟨inner, redirected, rfl⟩ := (guarded within still _ _ _).mp runs
      exact ⟨reading, within, inner, answer, mid, asking, redirected, by simp, rfl, rfl⟩
    · rintro ⟨reading, within, inner, answer, mid, asking, redirected, rfl, rfl, rfl⟩
      have still := (of_runs_read vacant asking).2.1.trans inForce
      have runs := (guarded within still _ _ _).mpr ⟨inner, redirected, rfl⟩
      exact ⟨reading, within, _, answer, mid, asking, runs, by simp, rfl, rfl⟩
  · intro reading within runs call mem
    obtain ⟨-, -, -, quiet | ⟨asked, outcome, mid, asking, same⟩⟩ := of_runs_read vacant runs
    · simp [quiet] at mem
    · exact callsOf_get asking call (same ▸ mem)

def staffOnly : Config :=
  { protect := [staffRule] }

theorem staffRule_valid : staffRule.Valid where
  pattern := by cbv
  redirectTo := .inl rfl
  requirement := by decide

theorem staffOnly_accepted :
    Source.resolve (.ready { protect := .list [staffRule.toValue] }) = .ok staffOnly :=
  Source.resolve_of_valid fun _ mem => List.mem_singleton.mp mem ▸ staffRule_valid

theorem malformed_session_redirected :
    ∃ trace t, Runs ⟨{ config := some staffOnly }, .context staffSession⟩
      (enter ((Host.answering .null).watched fun _ => .mk "hook") (.table [(key, .int 5)])
        (Engine.guard ((Host.answering .null).watched fun _ => .mk "hook") "/admin/users"
          (.done (.str "secret")) .done)) trace (.ok (.inr (.str "/login"))) t ∧
      t.context = .context staffSession := by
  have vacant : Vacant ((Host.answering .null).watched fun _ => .mk "hook") (.table [(key, .int 5)])
      ⟨{ config := some staffOnly }, .context staffSession⟩ := by
    apply vacant_of_table rfl
    simp [Table.find, key, Value.same, isValid, Value.table?, Value.opened]
  obtain ⟨⟨entry, iff⟩, -⟩ := enter_guard_fails_closed (Host.answering .null) (fun _ => .mk "hook")
    _ staffOnly staffRule "/admin/users" _ (.done (.str "secret")) .done _ staffOnly_accepted
    rfl rfl ⟨rfl, rfl, rfl⟩ staffRule_governs (by decide) vacant
  obtain ⟨reading, runs⟩ := runs_run ⟨{ config := some staffOnly }, .context staffSession⟩
    (read ((Host.answering .null).watched fun _ => .mk "hook") (.table [(key, .int 5)]))
  rw [(of_runs_read vacant runs).1] at runs
  exact ⟨_, _, (iff _ _ _).mpr
    ⟨reading, _, [], .ok (.str "/login"), _, runs, .done, rfl, rfl, rfl⟩, rfl⟩

end Session

end Gatekeeper
