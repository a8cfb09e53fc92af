import Gatekeeper.Engine
import Gatekeeper.Proofs.Process.Trace
import Gatekeeper.Proofs.Value

/-! How a decision by a rule comes about: by a predicate that decides alone, or by what the rule asks
of the session; and then it is logged. -/
namespace Gatekeeper

variable {getRole getPermissions check session : Value} {rule : Rule} {config : Config}
  {path : String}

/-- The predicate that decides alone, if there is one, and what it is given. The check function
comes before the function of a custom rule. -/
def Rule.predicate? (rule : Rule) (check session : Value) : Option (Value × List Value) :=
  if !check.isNull then some (check, [rule.toValue, session])
  else if rule.kind = .allow then some (rule.requirement, [session])
  else none

theorem ordinary_allGranted {granted : List Value} (required : List Value) :
    Ordinary (allGranted granted required) := by
  induction required with
  | nil => exact ordinary_ok _
  | cons value rest ih =>
    unfold allGranted
    split
    · simp [Fault.Ordinary]
    · split
      · exact ih
      · exact ordinary_ok _

theorem ordinary_findRule (rules : List Rule) (path : String) : Ordinary (findRule rules path) := by
  have matched : ∀ pattern : Value, Ordinary (matchValue pattern path) := by
    intro pattern
    unfold matchValue
    repeat' split
    all_goals simp [Fault.Ordinary]
  induction rules with
  | nil => exact ordinary_ok _
  | cons rule rest ih =>
    refine (matched rule.pattern).bind fun covers => ?_
    split
    · exact ordinary_ok _
    · exact ih

namespace Engine

open Process

variable {host : Host} {s t : Surroundings} {trace : List Op}

@[simp] theorem attr_check :
    (Value.hooks getRole getPermissions check).attr "check" = .ok check := rfl

theorem check_eq_of_predicate {access function : Value} {arguments : List Value}
    (override : access.attr "check" = .ok check)
    (predicate : rule.predicate? check session = some (function, arguments)) :
    Engine.check host rule session access =
      (host.consult function arguments).bind fun answer => .done answer.truthy := by
  unfold Rule.predicate? at predicate
  by_cases unset : check = .null
  · by_cases custom : rule.kind = .allow
    · obtain ⟨rfl, rfl⟩ : rule.requirement = function ∧ [session] = arguments := by
        simpa [unset, custom] using predicate
      simp [Engine.check, override, unset, evaluate, custom]
    · simp [unset, custom] at predicate
  · obtain ⟨rfl, rfl⟩ : check = function ∧ [rule.toValue, session] = arguments := by
      simpa [unset] using predicate
    simp [Engine.check, override, unset]

theorem check_eq_of_no_predicate {access : Value} (override : access.attr "check" = .ok check)
    (none : rule.predicate? check session = none) :
    Engine.check host rule session access =
      if session.isNull then .done false else satisfies host rule session access := by
  unfold Rule.predicate? at none
  by_cases unset : check = .null
  · by_cases custom : rule.kind = .allow
    · simp [unset, custom] at none
    · simp [Engine.check, override, unset, evaluate, custom]
  · simp [unset] at none

theorem check_anonymous {access : Value} (unset : access.attr "check" = .ok .null)
    (notCustom : rule.kind ≠ .allow) : Engine.check host rule .null access = .done false := by
  have none : rule.predicate? .null .null = none := by simp [Rule.predicate?, notCustom]
  rw [check_eq_of_no_predicate unset none]
  rfl

def conclusion (config : Config) (check : Value) (rule : Rule) (session : Value)
    (admitted : Bool) : Decision :=
  let evaluation : Evaluation := ⟨if check.isNull then .rule rule.kind else .check, !session.isNull⟩
  if admitted then .admitted rule evaluation
  else .denied rule (rule.redirectTo.orElse config.loginPath) evaluation

def entry (path : String) (decision : Decision) : LogEntry :=
  ⟨.debug, .guard, path ++ ": " ++ decision.reason⟩

def announce (path : String) (decision : Decision) : Process Decision :=
  .ask (.log (entry path decision)) fun _ => .done decision

theorem runs_announce_iff {decision : Decision} {result : Except Fault Decision} :
    Runs s (announce path decision) trace result t ↔
      trace = [.log (entry path decision)] ∧ result = .ok decision ∧ t = s := by
  rw [announce, runs_ask_iff_of_ne_pause (by simp)]
  simp only [Surroundings.answer, runs_done_iff]
  constructor
  · rintro ⟨_, rfl, rfl, rfl, rfl⟩
    exact ⟨rfl, rfl, rfl⟩
  · rintro ⟨rfl, rfl, rfl⟩
    exact ⟨[], rfl, rfl, rfl, rfl⟩

theorem decide_config_eq {given : Option Value} :
    decide host .config path given =
      Process.config.bind fun config => decide host (.done config) path given := rfl

/-- Once a rule is found, the configuration is not read again. -/
theorem decide_eq_of_findRule {given : Option Value}
    (found : findRule config.protect path = .ok (some rule))
    (override : config.access.attr "check" = .ok check) :
    decide host (.done config) path given =
      (given.elim (Context.session host) .done).bind fun session =>
        (Engine.check host rule session config.access).bind fun admitted =>
          announce path (conclusion config check rule session admitted) := by
  have guarded : config.protect ≠ [] := by
    intro none
    rw [none] at found
    cases found
  cases given <;> simp [decide, guarded, found, override] <;> rfl

def judge (host : Host) (config : Config) (path : String) (rule : Rule) (session : Value) :
    Process Decision :=
  (Engine.check host rule session config.access).bind fun admitted =>
    (ofExcept (config.access.attr "check")).bind fun check =>
      announce path (conclusion config check rule session admitted)

theorem mem_of_findRule {rules : List Rule} (found : findRule rules path = .ok (some rule)) :
    rule ∈ rules := by
  induction rules with
  | nil => cases found
  | cons first rest ih =>
    unfold findRule at found
    cases matched : matchValue first.pattern path with
    | error fault =>
      rw [matched] at found
      cases found
    | ok covers =>
      rw [matched] at found
      cases covers with
      | true =>
        cases found
        exact List.mem_cons_self
      | false => exact List.mem_cons_of_mem _ (ih found)

/-- Either the path decides alone, and never against a request, or a rule of the configuration does,
and then the session is all that is asked for first. -/
theorem decide_cases (host : Host) (config : Config) (path : String) :
    (∃ outcome, Ordinary outcome ∧ (∀ decision, outcome = .ok decision → decision.allowed = true) ∧
      ∀ given, decide host (.done config) path given = .ofExcept outcome) ∨
    ∃ rule ∈ config.protect, ∀ given, decide host (.done config) path given =
      (given.elim (Context.session host) .done).bind (judge host config path rule) := by
  by_cases unprotected : config.protect = []
  · refine .inl ⟨.ok .unprotected, ordinary_ok _, ?_, fun given => by simp [decide, unprotected]⟩
    rintro _ ⟨⟩
    rfl
  cases found : findRule config.protect path with
  | error fault =>
    have ordinary := ordinary_findRule config.protect path fault found
    exact .inl ⟨.error fault, ordinary_error_iff.mpr ordinary, by simp, fun given => by
      simp [decide, unprotected, found]⟩
  | ok governing =>
    cases governing with
    | none =>
      exact .inl ⟨.ok .unmatched, ordinary_ok _, by rintro _ ⟨⟩; rfl, fun given => by
        simp [decide, unprotected, found]⟩
    | some rule =>
      refine .inr ⟨rule, mem_of_findRule found, fun given => ?_⟩
      cases given <;> simp [decide, unprotected, found] <;> rfl

end Engine

end Gatekeeper
