import Gatekeeper.Proofs.Config.Accepted
import Gatekeeper.Proofs.Engine.Precedence
import Gatekeeper.Proofs.Session.Structure

/-! Decisions without functions of the host. With the usual access functions, a rule that has no
function of its own looks at the role and the permissions of a session and at nothing else; and what
it lets in with some permissions, it lets in with more. -/
namespace Gatekeeper

variable {rule : Rule} {config : Config} {path : String} {role : Value} {granted more : List Value}

theorem Rule.Valid.wellTyped (valid : rule.Valid) : rule.WellTyped where
  pattern := Pattern.isText_of_isValid valid.pattern
  redirectTo := valid.redirectTo.imp_right fun target => by
    generalize rule.redirectTo = value at target
    cases value <;> first | rfl | cases target
  requirement := by
    have named : ∀ value, Rule.isName value = true → value.IsText := by
      intro value name
      cases value <;> first | rfl | cases name
    have listed : ∀ value, Rule.isNames value = true →
        ∃ names, value = .tuple names ∧ ∀ name ∈ names, name.IsText := by
      intro value names
      cases value <;> try cases names
      exact ⟨_, rfl, fun name mem => named name (List.all_eq_true.mp names name mem)⟩
    have requirement := valid.requirement
    cases kind : rule.kind <;> rw [kind] at requirement
    · exact named _ requirement
    · exact listed _ requirement
    · exact named _ requirement
    · exact listed _ requirement
    · trivial
    · trivial

/-- The rule lets in whoever has the role and the permissions. -/
def Rule.Grants (rule : Rule) (role : Value) (granted : List Value) : Prop :=
  match rule.kind with
  | .role => role = rule.requirement
  | .roles => ∃ names, rule.requirement = .tuple names ∧ role ∈ names
  | .permission => rule.requirement ∈ granted
  | .permissions => ∃ names, rule.requirement = .tuple names ∧ ∀ name ∈ names, name ∈ granted
  | .allow | .unrestricted => True

theorem Rule.Grants.mono (grants : rule.Grants role granted) (within : granted ⊆ more) :
    rule.Grants role more := by
  unfold Rule.Grants at grants ⊢
  split at grants
  · exact grants
  · exact grants
  · exact within grants
  · obtain ⟨names, given, all⟩ := grants
    exact ⟨names, given, fun name mem => within (all name mem)⟩
  · trivial
  · trivial

namespace Engine

open Process

variable {host : Host} {session : Value}

/-- Asked for what the rule demands, a valid session answers at once, and as the rule expects. -/
theorem inquiry_demand (host : Host) (typed : rule.WellTyped) (valid : Session.isValid session = true) :
    ∃ answer, (rule.demand .defaultRole .defaultPermissions session).inquiry host = .done answer ∧
      (rule.demand .defaultRole .defaultPermissions session).Declared answer ∧
      ((rule.demand .defaultRole .defaultPermissions session).Admits answer ↔
        rule.Grants (Session.roleOf session) (Session.permissionsOf session)) := by
  have isRole := Session.roleOf_cases valid
  have texts := Session.isText_of_mem_permissionsOf valid
  have typedRequirement := typed.requirement
  unfold Rule.demand Rule.Grants
  cases kind : rule.kind <;> rw [kind] at typedRequirement
  · exact ⟨_, Session.role_eq valid, isRole, Iff.rfl⟩
  · refine ⟨_, Session.role_eq valid, isRole, ?_⟩
    constructor
    · exact fun admits => admits.2
    · rintro ⟨names, given, mem⟩
      obtain ⟨others, same, named⟩ := typedRequirement
      have inside : Session.roleOf session ∈ others :=
        Value.tuple.inj (given.symm.trans same) ▸ mem
      refine ⟨fun null => ?_, names, given, mem⟩
      have isText := named _ inside
      rw [null] at isText
      cases isText
  · refine ⟨_, Session.permissions_eq valid, ⟨_, rfl, texts⟩, ?_⟩
    simp [Basis.Admits]
  · refine ⟨_, Session.permissions_eq valid, ⟨_, rfl, texts⟩, ?_⟩
    simp [Basis.Admits]
  · exact ⟨.null, rfl, trivial, by simp [Basis.Admits]⟩
  · exact ⟨.null, rfl, trivial, by simp [Basis.Admits]⟩

theorem check_eq_of_isValid (host : Host) (typed : rule.WellTyped)
    (builtIn : rule.kind ≠ .allow) (valid : Session.isValid session = true) :
    ∃ admitted, Engine.check host rule session defaultHooks = .done admitted ∧
      (admitted = true ↔
        rule.Grants (Session.roleOf session) (Session.permissionsOf session)) := by
  have none : rule.predicate? .null session = none := by simp [Rule.predicate?, builtIn]
  have rests : Rests host (satisfies host rule session defaultHooks)
      (rule.demand .defaultRole .defaultPermissions session) := satisfies_rests typed builtIn
  obtain ⟨next, asks, answers⟩ := rests
  obtain ⟨answer, answered, declared, iff⟩ := inquiry_demand host typed valid
  obtain ⟨admitted, ends, admits⟩ := answers answer declared
  refine ⟨admitted, ?_, admits.trans iff⟩
  have present : session.isNull = false := by
    simpa using Session.ne_null_of_isValid valid
  have unset : defaultHooks.attr "check" = .ok .null := rfl
  rw [check_eq_of_no_predicate unset none, present, if_neg Bool.false_ne_true]
  rw [asks, answered, done_bind, ends]

theorem check_eq_of_usable (host : Host) (typed : rule.WellTyped) (builtIn : rule.kind ≠ .allow)
    (usable : Session.Usable session) :
    ∃ admitted, Engine.check host rule session defaultHooks = .done admitted ∧
      (admitted = true ↔ session ≠ .null ∧
        rule.Grants (Session.roleOf session) (Session.permissionsOf session)) := by
  rcases usable with rfl | valid
  · exact ⟨false, check_anonymous rfl builtIn, by simp⟩
  · obtain ⟨admitted, checked, admits⟩ := check_eq_of_isValid host typed builtIn valid
    exact ⟨admitted, checked, admits.trans (and_iff_right (Session.ne_null_of_isValid valid)).symm⟩

theorem decide_eq_announce (host : Host)
    (found : findRule config.protect path = .ok (some rule))
    (usual : config.access = defaultHooks) (typed : rule.WellTyped) (builtIn : rule.kind ≠ .allow)
    (valid : Session.isValid session = true) :
    ∃ admitted, decide host (.done config) path (some session) =
        announce path (conclusion config .null rule session admitted) ∧
      (admitted = true ↔
        rule.Grants (Session.roleOf session) (Session.permissionsOf session)) := by
  obtain ⟨admitted, checked, iff⟩ := check_eq_of_isValid host typed builtIn valid
  refine ⟨admitted, ?_, iff⟩
  have unset : config.access.attr "check" = .ok .null := by rw [usual]; rfl
  rw [decide_eq_of_findRule found unset, usual, Option.elim_some, done_bind, checked, done_bind]

theorem decide_eq_done (host : Host) (texts : ∀ rule ∈ config.protect, rule.pattern.IsText)
    (misses : ∀ rule ∈ config.protect, ¬ rule.Covers path) :
    ∃ decision, ∀ given, decide host (.done config) path given = .done decision := by
  by_cases unprotected : config.protect = []
  · exact ⟨.unprotected, fun given => by simp [decide, unprotected]⟩
  · have none := findRule_of_not_covers texts misses
    exact ⟨.unmatched, fun given => by simp [decide, unprotected, none]⟩

theorem run_announce (decision : Decision) (s : Surroundings) :
    (announce path decision).run s = (.ok decision, s) :=
  rfl

/-- Nothing else about a session shows in a decision. With the usual access functions and without
functions of rules, two sessions with the same role and the same permissions, in whatever order and
form and however often they are listed, are decided by one and the same program; and of two sessions
with the same role, the one with more permissions is let in wherever the other one is. -/
theorem decisions_rest_on_role_and_permissions (host : Host) (source : Source) (config : Config)
    (path : String) (first second : Value) (accepted : source.resolve = .ok config)
    (usual : config.access = defaultHooks)
    (builtIn : ∀ rule : Rule, rule.Governs config.protect path → rule.kind ≠ .allow)
    (valid : Session.isValid first = true) (validToo : Session.isValid second = true)
    (sameRole : Session.roleOf first = Session.roleOf second) :
    ∃ one other : Decision,
      (∀ s, (decide host (.done config) path (some first)).run s = (.ok one, s)) ∧
      (∀ s, (decide host (.done config) path (some second)).run s = (.ok other, s)) ∧
      ((∀ permission, permission ∈ Session.permissionsOf first ↔
          permission ∈ Session.permissionsOf second) →
        one = other ∧ decide host (.done config) path (some first) =
          decide host (.done config) path (some second)) ∧
      (Session.permissionsOf first ⊆ Session.permissionsOf second →
        one.allowed = true → other.allowed = true) := by
  have rules := Source.valid_of_resolve accepted
  have texts : ∀ rule ∈ config.protect, rule.pattern.IsText :=
    fun rule mem => Pattern.isText_of_isValid (rules rule mem).pattern
  by_cases covered : ∃ rule ∈ config.protect, rule.Covers path
  · obtain ⟨rule, governs⟩ := exists_governs covered
    have found := findRule_of_governs texts governs
    have typed := (rules rule governs.mem).wellTyped
    obtain ⟨lets, decides, iff⟩ := decide_eq_announce host found usual typed
      (builtIn rule governs) valid
    obtain ⟨letsToo, decidesToo, iffToo⟩ := decide_eq_announce host found usual typed
      (builtIn rule governs) validToo
    -- Both sessions are there, so a decision depends on the session by what it admits alone.
    have conclusions : ∀ admitted, conclusion config .null rule first admitted =
        conclusion config .null rule second admitted := fun admitted => by
      simp only [conclusion, Value.isNull_eq_false_iff.mpr (Session.ne_null_of_isValid valid),
        Value.isNull_eq_false_iff.mpr (Session.ne_null_of_isValid validToo)]
    have grows : Session.permissionsOf first ⊆ Session.permissionsOf second →
        lets = true → letsToo = true := fun within admits =>
      iffToo.mpr (sameRole ▸ (iff.mp admits).mono within)
    have shrinks : Session.permissionsOf second ⊆ Session.permissionsOf first →
        letsToo = true → lets = true := fun within admits =>
      iff.mpr (sameRole ▸ (iffToo.mp admits).mono within)
    rw [decides, decidesToo, conclusions]
    refine ⟨_, _, run_announce _, run_announce _, fun same => ?_, fun within allowed => ?_⟩
    · obtain rfl : lets = letsToo := Bool.eq_iff_iff.mpr
        ⟨grows fun _ => (same _).mp, shrinks fun _ => (same _).mpr⟩
      exact ⟨rfl, rfl⟩
    · have admits : lets = true := by
        cases lets with
        | true => rfl
        | false => cases allowed
      rw [grows within admits]
      rfl
  · obtain ⟨decision, same⟩ := decide_eq_done host texts (by simpa using covered)
    rw [same, same]
    exact ⟨decision, decision, fun _ => rfl, fun _ => rfl, fun _ => ⟨rfl, rfl⟩, fun _ allowed => allowed⟩

def auditRule : Rule :=
  ⟨.permissions, .str "/audit/*", .tuple [.str "read", .str "audit"], .null⟩

def auditConfig : Config :=
  { protect := [auditRule] }

theorem auditRule_valid : auditRule.Valid where
  pattern := by cbv
  redirectTo := .inl rfl
  requirement := by decide

theorem auditConfig_accepted :
    Source.resolve (.ready { protect := .list [auditRule.toValue] }) = .ok auditConfig :=
  Source.resolve_of_valid fun _ mem => List.mem_singleton.mp mem ▸ auditRule_valid

theorem auditRule_governs : auditRule.Governs auditConfig.protect "/audit/log" := by
  have isText : auditRule.pattern.IsText := rfl
  refine ⟨[], [], rfl, ?_, by simp⟩
  obtain ⟨covers, same, iff⟩ := matchValue_eq_ok isText "/audit/log"
  have accepts : matchValue auditRule.pattern "/audit/log" = .ok true := by cbv
  exact iff.mp (Except.ok.inj (same.symm.trans accepts))

def auditor : Value :=
  .table [(.str "user_id", .str "ann"), (.str "permissions", .list [.str "audit", .str "read"])]

def deputy : Value :=
  .view [(.str "theme", .str "dark"), (.str "role", .null), (.str "user_id", .str "bob"),
    (.str "permissions", .tuple [.str "read", .str "audit", .str "read"])]

theorem deputy_decided_like_auditor :
    auditRule.Governs auditConfig.protect "/audit/log" ∧
      decide (.answering .null) (.done auditConfig) "/audit/log" (some auditor) =
        decide (.answering .null) (.done auditConfig) "/audit/log" (some deputy) := by
  have valid : Session.isValid auditor = true := by
    simp [Session.isValid, Session.isValidTable, auditor, Value.table?, Value.opened,
      Table.field_cons, Session.optional, Session.isTexts, Session.isText, Session.isUserId]
    decide
  have validToo : Session.isValid deputy = true := by
    simp [Session.isValid, Session.isValidTable, deputy, Value.table?, Value.opened,
      Table.field_cons, Session.optional, Session.isTexts, Session.isText, Session.isUserId]
    decide
  have roles : Session.roleOf auditor = Session.roleOf deputy := by
    simp [Session.roleOf, Session.fieldOf, auditor, deputy, Value.table?, Value.opened,
      Table.field_cons]
  have permissions : ∀ permission, permission ∈ Session.permissionsOf auditor ↔
      permission ∈ Session.permissionsOf deputy := by
    intro permission
    simp [Session.permissionsOf, Session.textsOf, Session.fieldOf, auditor, deputy, Value.table?,
      Value.opened, Table.field_cons]
    tauto
  obtain ⟨_, _, -, -, same, -⟩ := decisions_rest_on_role_and_permissions (.answering .null) _
    auditConfig "/audit/log" auditor deputy auditConfig_accepted rfl
    (by
      rintro rule governs
      obtain rfl := List.mem_singleton.mp governs.mem
      decide)
    valid validToo roles
  exact ⟨auditRule_governs, (same permissions).2⟩

end Engine

end Gatekeeper
