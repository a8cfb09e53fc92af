import Gatekeeper.Proofs.Engine.Decision
import Gatekeeper.Proofs.Engine.Selection
import Gatekeeper.Proofs.Process.Watched

/-! The order of precedence by which a rule decides. A check function overrides everything; a custom
rule sees every session; any other rule denies where there is no session, and else asks for the role
or the permissions of the one there is. -/
namespace Gatekeeper

variable {getRole getPermissions check session : Value} {rule : Rule} {config : Config}
  {path : String}

structure Rule.WellTyped (rule : Rule) : Prop where
  pattern : rule.pattern.IsText
  redirectTo : rule.redirectTo = .null ∨ rule.redirectTo.IsText
  requirement : match rule.kind with
    | .role | .permission => rule.requirement.IsText
    | .roles | .permissions =>
      ∃ names, rule.requirement = .tuple names ∧ ∀ name ∈ names, name.IsText
    | .allow | .unrestricted => True

def Rule.target (rule : Rule) (loginPath : Value) : Value :=
  match rule.redirectTo with
  | .null | .str "" => loginPath
  | target => target

theorem Rule.WellTyped.orElse_eq_target (typed : rule.WellTyped) (loginPath : Value) :
    rule.redirectTo.orElse loginPath = rule.target loginPath := by
  rcases typed.redirectTo with given | isText
  · simp [Rule.target, given, Value.orElse, Value.truthy]
  rcases Value.isText_iff.mp isText with ⟨text, given⟩ | ⟨letters, given⟩
  · by_cases empty : text = ""
    · simp [Rule.target, given, Value.orElse, Value.truthy, empty]
    · simp [Rule.target, given, Value.orElse, Value.truthy, empty]
  · simp [Rule.target, given, Value.orElse, Value.truthy]

def Value.IsRole (value : Value) : Prop :=
  value = .null ∨ value.IsText

def Value.ArePermissions (value : Value) : Prop :=
  ∃ granted, value = .list granted ∧ ∀ item ∈ granted, item.IsText

/-- What the decision of a rule on a session rests on. -/
inductive Basis where
  | settled (admitted : Bool)
  | predicate (function : Value) (arguments : List Value)
  | reading (function session : Value) (declared admits : Value → Prop)

namespace Basis

def asked? : Basis → Option (Value × List Value)
  | settled _ => none
  | predicate function arguments => some (function, arguments)
  | reading function session _ _ => some (function, [session])

def inquiry (host : Host) : Basis → Process Value
  | settled _ => .done .null
  | predicate function arguments => host.consult function arguments
  | reading function session _ _ => host.invoke function [session]

def Declared : Basis → Value → Prop
  | reading _ _ declared _ => declared
  | _ => fun _ => True

def Admits : Basis → Value → Prop
  | settled admitted => fun _ => admitted = true
  | predicate _ _ => fun answer => answer.truthy = true
  | reading _ _ _ admits => admits

def Reliable (basis : Basis) (host : Host) (s : Surroundings) : Prop :=
  ∀ trace answer t, Process.Runs s (basis.inquiry host) trace (.ok answer) t →
    basis.Declared answer

end Basis

def Rule.demand (rule : Rule) (getRole getPermissions session : Value) : Basis :=
  match rule.kind with
  | .role => .reading getRole session Value.IsRole fun role => role = rule.requirement
  | .roles =>
    .reading getRole session Value.IsRole fun role =>
      role ≠ .null ∧ ∃ names, rule.requirement = .tuple names ∧ role ∈ names
  | .permission =>
    .reading getPermissions session Value.ArePermissions fun permissions =>
      ∃ granted, permissions = .list granted ∧ rule.requirement ∈ granted
  | .permissions =>
    .reading getPermissions session Value.ArePermissions fun permissions =>
      ∃ names granted, rule.requirement = .tuple names ∧ permissions = .list granted ∧
        ∀ name ∈ names, name ∈ granted
  | .allow | .unrestricted => .settled true

def Rule.basis (rule : Rule) (getRole getPermissions check session : Value) : Basis :=
  match rule.predicate? check session with
  | some (function, arguments) => .predicate function arguments
  | none => if session.isNull then .settled false else rule.demand getRole getPermissions session

/-- What a decision by the rule says, given when it admits. Only a denial leads elsewhere. -/
structure Rule.Concludes (rule : Rule) (config : Config) (check session : Value) (admits : Prop)
    (decision : Decision) : Prop where
  allowed : decision.allowed = true ↔ admits
  origin : decision.rule? = some rule
  admitted : admits → decision.redirectTo = .null ∧
    decision.reason = "Access allowed by rule " ++ rule.pattern.text
  denied : ¬ admits → decision.redirectTo = rule.target config.loginPath ∧
    decision.reason = "Access denied by rule " ++ rule.pattern.text
  evaluation : decision.evaluation? =
    some ⟨if check.isNull then .rule rule.kind else .check, !session.isNull⟩

namespace Engine

open Process

variable {host : Host} {s t : Surroundings} {trace : List Op}

/-- A process that asks what the basis asks, and by an answer as declared comes to what the basis
says. -/
def Rests (host : Host) (process : Process Bool) (basis : Basis) : Prop :=
  ∃ next : Value → Process Bool, process = (basis.inquiry host).bind next ∧
    ∀ answer, basis.Declared answer → ∃ admitted : Bool,
      next answer = .done admitted ∧ (admitted = true ↔ basis.Admits answer)

theorem rests_settled (admitted : Bool) : Rests host (.done admitted) (.settled admitted) :=
  ⟨fun _ => .done admitted, rfl, fun _ _ => ⟨admitted, rfl, Iff.rfl⟩⟩

theorem rests_predicate (function : Value) (arguments : List Value) :
    Rests host ((host.consult function arguments).bind fun answer => .done answer.truthy)
      (.predicate function arguments) :=
  ⟨_, rfl, fun _ _ => ⟨_, rfl, Iff.rfl⟩⟩

theorem allGranted_eq_ok {names granted : List Value} (texts : ∀ item ∈ granted, item.IsText)
    (named : ∀ name ∈ names, name.IsText) :
    ∃ all : Bool, allGranted granted names = .ok all ∧
      (all = true ↔ ∀ name ∈ names, name ∈ granted) := by
  induction names with
  | nil => exact ⟨true, rfl, by simp⟩
  | cons name rest ih =>
    have isText := named name (by simp)
    have member := Value.memberOf_iff_mem isText texts
    by_cases mem : name ∈ granted
    · obtain ⟨all, same, iff⟩ := ih fun other inside => named other (by simp [inside])
      refine ⟨all, ?_, by simp [iff, mem]⟩
      simp [allGranted, isText.hashable, member.mpr mem, same]
    · refine ⟨false, ?_, by simp [mem]⟩
      simp [allGranted, isText.hashable, member, mem]

theorem satisfies_rests (typed : rule.WellTyped) (notCustom : rule.kind ≠ .allow) :
    Rests host (satisfies host rule session (.hooks getRole getPermissions check))
      (rule.demand getRole getPermissions session) := by
  have requirement := typed.requirement
  unfold satisfies Rule.demand
  cases kind : rule.kind with
  | role =>
    simp only [kind] at requirement
    refine ⟨_, rfl, fun role isRole => ⟨_, rfl, ?_⟩⟩
    exact Value.equal_iff_eq isRole requirement
  | roles =>
    simp only [kind] at requirement
    obtain ⟨names, given, texts⟩ := requirement
    refine ⟨_, rfl, fun role isRole => ?_⟩
    rcases isRole with rfl | isText
    · exact ⟨false, rfl, by simp [Basis.Admits]⟩
    · have present : role.isNull = false := by
        rcases Value.isText_iff.mp isText with ⟨_, rfl⟩ | ⟨_, rfl⟩ <;> rfl
      refine ⟨role.memberOf names, by simp [present, given, Value.contains, Value.opened], ?_⟩
      rw [Value.memberOf_iff_mem isText texts]
      have : role ≠ .null := by rintro rfl; cases present
      simp [Basis.Admits, this, given]
  | permission =>
    simp only [kind] at requirement
    refine ⟨_, rfl, ?_⟩
    rintro _ ⟨granted, rfl, texts⟩
    refine ⟨rule.requirement.memberOf granted, rfl, ?_⟩
    rw [Value.memberOf_iff_mem requirement texts]
    simp [Basis.Admits]
  | permissions =>
    simp only [kind] at requirement
    obtain ⟨names, given, named⟩ := requirement
    refine ⟨_, rfl, ?_⟩
    rintro _ ⟨granted, rfl, texts⟩
    obtain ⟨all, same, iff⟩ := allGranted_eq_ok texts named
    have hashable : ∀ item ∈ granted, item.hashable = true :=
      fun item mem => (texts item mem).hashable
    refine ⟨all, ?_, by simp [Basis.Admits, iff, given]⟩
    simpa [Value.items, Value.opened, given, same, Bind.bind, Except.bind] using hashable
  | allow => exact absurd kind notCustom
  | unrestricted => exact rests_settled true

theorem check_rests (typed : rule.WellTyped) :
    Rests host (Engine.check host rule session (.hooks getRole getPermissions check))
      (rule.basis getRole getPermissions check session) := by
  unfold Rule.basis
  cases asks : rule.predicate? check session with
  | some asked =>
    rw [check_eq_of_predicate attr_check asks]
    exact rests_predicate asked.1 asked.2
  | none =>
    rw [check_eq_of_no_predicate attr_check asks]
    by_cases anonymous : session = .null
    · simpa [anonymous] using rests_settled false
    · have notCustom : rule.kind ≠ .allow := by
        intro custom
        simp only [Rule.predicate?, custom, if_true] at asks
        split at asks <;> cases asks
      simpa [anonymous] using satisfies_rests typed notCustom

theorem concludes_iff (typed : rule.WellTyped) {admitted : Bool} {admits : Prop}
    (iff : admitted = true ↔ admits) {decision : Decision} :
    rule.Concludes config check session admits decision ↔
      decision = conclusion config check rule session admitted := by
  constructor
  · intro concludes
    have allowed := concludes.allowed
    have origin := concludes.origin
    have evaluation := concludes.evaluation
    cases decision with
    | unprotected => cases origin
    | unmatched => cases origin
    | admitted other details =>
      cases origin
      cases evaluation
      obtain rfl : admitted = true := iff.mpr (allowed.mp rfl)
      rfl
    | denied other target details =>
      cases origin
      cases evaluation
      have denied : ¬ admits := fun admits => Bool.noConfusion (allowed.mpr admits)
      obtain rfl : admitted = false := by simpa [denied] using iff
      have leads : target = rule.target config.loginPath := (concludes.denied denied).1
      rw [leads, ← typed.orElse_eq_target]
      rfl
  · rintro rfl
    cases admitted with
    | true =>
      have admits := iff.mp rfl
      exact ⟨by simp [conclusion, Decision.allowed, admits], rfl, fun _ => ⟨rfl, rfl⟩,
        fun denied => absurd admits denied, rfl⟩
    | false =>
      have denied : ¬ admits := fun admits => Bool.noConfusion (iff.mpr admits)
      exact ⟨by simp [conclusion, Decision.allowed, denied], rfl,
        fun admits => absurd admits denied, fun _ => ⟨typed.orElse_eq_target _, rfl⟩, rfl⟩

theorem runs_decide_iff {basis : Basis} {result : Except Fault Decision}
    (found : findRule config.protect path = .ok (some rule))
    (override : config.access.attr "check" = .ok check) (typed : rule.WellTyped)
    (rests : Rests host (Engine.check host rule session config.access) basis)
    (reliable : basis.Reliable host s) :
    Runs s (decide host (.done config) path (some session)) trace result t ↔
      (∃ asked answer decision, trace = asked ++ [.log (entry path decision)] ∧
        Runs s (basis.inquiry host) asked (.ok answer) t ∧
        rule.Concludes config check session (basis.Admits answer) decision ∧
        result = .ok decision) ∨
      ∃ fault, result = .error fault ∧ Runs s (basis.inquiry host) trace (.error fault) t := by
  obtain ⟨next, same, answers⟩ := rests
  rw [decide_eq_of_findRule found override, Option.elim_some, done_bind, same, bind_assoc,
    runs_bind_iff]
  refine or_congr_left ⟨?_, ?_⟩
  · rintro ⟨asked, rest, answer, mid, rfl, asking, runs⟩
    obtain ⟨admitted, ends, iff⟩ := answers answer (reliable asked answer mid asking)
    rw [ends, done_bind, runs_announce_iff] at runs
    obtain ⟨rfl, rfl, rfl⟩ := runs
    exact ⟨asked, answer, _, rfl, asking, (concludes_iff typed iff).mpr rfl, rfl⟩
  · rintro ⟨asked, answer, decision, rfl, asking, concludes, rfl⟩
    obtain ⟨admitted, ends, iff⟩ := answers answer (reliable asked answer t asking)
    obtain rfl := (concludes_iff typed iff).mp concludes
    refine ⟨asked, _, answer, t, rfl, asking, ?_⟩
    rw [ends, done_bind, runs_announce_iff]
    exact ⟨rfl, rfl, rfl⟩

theorem callsOf_inquiry {basis : Basis} {tell : Value → List Value → Call}
    {result : Except Fault Value}
    (runs : Runs s (basis.inquiry (host.watched tell)) trace result t) :
    (basis.asked? = none → callsOf trace = []) ∧
      ∀ id name arguments, basis.asked? = some (.callback id name, arguments) →
        callsOf trace = [tell (.callback id name) arguments] := by
  cases basis with
  | settled admitted =>
    obtain ⟨rfl, -⟩ := runs_done_iff.mp runs
    exact ⟨fun _ => rfl, nofun⟩
  | predicate function given =>
    refine ⟨nofun, ?_⟩
    rintro id name arguments ⟨⟩
    exact Host.callsOf_consult runs
  | reading function session declared admits =>
    refine ⟨nofun, ?_⟩
    rintro id name arguments ⟨⟩
    exact Host.callsOf_invoke runs

/-- One order of precedence decides every path for every session. A path that no rule covers is
open, and nothing is asked. Else the first rule that covers it decides by what its basis asks, which
is the only thing asked, and asked once. -/
theorem decide_follows_precedence (host : Host) (tell : Value → List Value → Call)
    (config : Config) (getRole getPermissions check : Value) (path : String) (session : Value)
    (hooks : config.access = .hooks getRole getPermissions check)
    (typed : ∀ rule ∈ config.protect, rule.WellTyped) :
    ((∀ rule ∈ config.protect, ¬ rule.Covers path) →
      ∃ decision, decide (host.watched tell) (.done config) path (some session) = .done decision ∧
        decision.allowed = true ∧ decision.rule? = none ∧ decision.redirectTo = .null ∧
        decision.evaluation? = none) ∧
    ∀ (rule : Rule) (basis : Basis), rule.Governs config.protect path →
      basis = rule.basis getRole getPermissions check session →
      ∀ s, basis.Reliable (host.watched tell) s → ∀ trace result t,
        (Runs s (decide (host.watched tell) (.done config) path (some session)) trace result t ↔
          (∃ asked answer decision, trace = asked ++ [.log (entry path decision)] ∧
            Runs s (basis.inquiry (host.watched tell)) asked (.ok answer) t ∧
            rule.Concludes config check session (basis.Admits answer) decision ∧
            result = .ok decision) ∨
          ∃ fault, result = .error fault ∧
            Runs s (basis.inquiry (host.watched tell)) trace (.error fault) t) ∧
        (Runs s (decide (host.watched tell) (.done config) path (some session)) trace result t →
          (basis.asked? = none → callsOf trace = []) ∧
          ∀ id name arguments, basis.asked? = some (.callback id name, arguments) →
            callsOf trace = [tell (.callback id name) arguments]) := by
  have texts : ∀ rule ∈ config.protect, rule.pattern.IsText :=
    fun rule mem => (typed rule mem).pattern
  constructor
  · intro misses
    have found := findRule_of_not_covers texts misses
    by_cases none : config.protect = []
    · exact ⟨.unprotected, by simp [decide, none], rfl, rfl, rfl, rfl⟩
    · exact ⟨.unmatched, by simp [decide, none, found], rfl, rfl, rfl, rfl⟩
  · rintro rule basis governs rfl s reliable trace result t
    have found := findRule_of_governs texts governs
    have wellTyped : rule.WellTyped := typed rule governs.mem
    have override : config.access.attr "check" = .ok check := by rw [hooks, attr_check]
    have rests : Rests (host.watched tell)
        (Engine.check (host.watched tell) rule session config.access)
        (rule.basis getRole getPermissions check session) := by
      rw [hooks]
      exact check_rests wellTyped
    refine ⟨runs_decide_iff found override wellTyped rests reliable, fun runs => ?_⟩
    rcases (runs_decide_iff found override wellTyped rests reliable).mp runs with
      ⟨asked, answer, decision, rfl, asking, -⟩ | ⟨fault, -, asking⟩
    · rw [callsOf_append]
      simpa [callsOf] using callsOf_inquiry asking
    · exact callsOf_inquiry asking

def staffConfig : Config :=
  { protect := [staffRule], access := .hooks (.callback 0 "get_role") .defaultPermissions .null }

theorem staffRule_wellTyped : staffRule.WellTyped where
  pattern := rfl
  redirectTo := .inl rfl
  requirement := ⟨_, rfl, by simp [Value.IsText, Value.letters?]⟩

def staffBasis : Basis :=
  staffRule.basis (.callback 0 "get_role") .defaultPermissions .null staffSession

theorem decide_admits_owner :
    ∃ trace decision,
      Runs {} (decide ((Host.answering (.str "owner")).watched fun _ => .mk "get_role")
        (.done staffConfig) "/admin/users" (some staffSession)) trace (.ok decision) {} ∧
      decision.allowed = true ∧ callsOf trace = [⟨"get_role", [staffSession]⟩] := by
  have typed : ∀ rule ∈ staffConfig.protect, rule.WellTyped := by
    simp [staffConfig, staffRule_wellTyped]
  have follows := (decide_follows_precedence (Host.answering (.str "owner"))
    (fun _ => .mk "get_role") staffConfig _ _ _ "/admin/users" staffSession rfl typed).2
      staffRule staffBasis staffRule_governs rfl {}
  have asking : Runs {} (staffBasis.inquiry ((Host.answering (.str "owner")).watched
      fun _ => .mk "get_role")) [.note ⟨"get_role", [staffSession]⟩] (.ok (.str "owner")) {} :=
    .ask rfl .done
  have reliable : staffBasis.Reliable ((Host.answering (.str "owner")).watched
      fun _ => .mk "get_role") {} := by
    intro trace answer t runs
    obtain ⟨mid, rest, -, -, answered⟩ := runs_ask_iff.mp runs
    obtain ⟨-, same, -⟩ := runs_done_iff.mp answered
    cases same
    exact .inr rfl
  have admits : staffBasis.Admits (.str "owner") := ⟨nofun, _, rfl, by simp⟩
  have concludes : staffRule.Concludes staffConfig .null staffSession
      (staffBasis.Admits (.str "owner"))
      (conclusion staffConfig .null staffRule staffSession true) :=
    (concludes_iff staffRule_wellTyped ⟨fun _ => admits, fun _ => rfl⟩).mpr rfl
  have runs := (follows reliable _ _ _).1.mpr (.inl ⟨_, _, _, rfl, asking, concludes, rfl⟩)
  exact ⟨_, _, runs, rfl, ((follows reliable _ _ _).2 runs).2 0 "get_role" [staffSession] rfl⟩

end Engine

end Gatekeeper
