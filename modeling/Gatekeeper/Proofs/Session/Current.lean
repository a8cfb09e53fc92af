import Gatekeeper.Proofs.Context
import Gatekeeper.Proofs.Engine.BuiltIn
import Gatekeeper.Session.Current

/-! Questions about the current session, beside the rules that ask for the same. Questions read the
fields of the session themselves, rules read them through the access functions. With the usual ones both
find the same role and the same permissions. -/
namespace Gatekeeper

open Process

variable {host : Host} {s : Surroundings} {session permission role pattern target held : Value}
  {items permissions roles : List Value} {name : String} {count limit : Nat} {answer : Bool}

namespace Engine

open Session

/-- Only its kind and its requirement count for whether a rule is satisfied. -/
theorem check_eq_of_requirement (kind : RuleKind) (requirement : Value) :
    check host ⟨kind, pattern, requirement, target⟩ session defaultHooks =
      check host ⟨kind, .str "/", requirement, .null⟩ session defaultHooks := by
  cases kind <;> rfl

theorem check_eq_of_grants {kind : RuleKind} {requirement : Value} (builtIn : kind ≠ .allow)
    (typed : Rule.WellTyped ⟨kind, .str "/", requirement, .null⟩) (usable : Usable session)
    (iff : answer = true ↔
      Rule.Grants ⟨kind, .str "/", requirement, .null⟩ (roleOf session) (permissionsOf session)) :
    check host ⟨kind, pattern, requirement, target⟩ session defaultHooks =
      .done (!session.isNull && answer) := by
  obtain ⟨admitted, checked, admits⟩ := check_eq_of_usable host typed builtIn usable
  have same : admitted = (!session.isNull && answer) := by
    rw [Bool.eq_iff_iff, Bool.and_eq_true, Bool.not_eq_true', Value.isNull_eq_false_iff, iff]
    exact admits
  rw [check_eq_of_requirement, checked, same]

theorem check_role (isText : role.IsText) (usable : Usable session) :
    check host (.make .role pattern role target) session defaultHooks =
      .done (!session.isNull && (roleOf session).equal role) :=
  check_eq_of_grants (by decide) ⟨rfl, .inl rfl, isText⟩ usable
    (Value.equal_iff_eq usable.roleOf_cases isText)

theorem check_roles (texts : ∀ role ∈ roles, role.IsText) (usable : Usable session) :
    check host (.make .roles pattern (.list roles) target) session defaultHooks =
      .done (!session.isNull && roles.any (roleOf session).equal) := by
  refine check_eq_of_grants (by decide) ⟨rfl, .inl rfl, roles, rfl, texts⟩ usable ?_
  rw [List.any_eq_true]
  constructor
  · rintro ⟨role, mem, same⟩
    rw [Value.equal_iff_eq usable.roleOf_cases (texts role mem)] at same
    exact ⟨roles, rfl, same ▸ mem⟩
  · rintro ⟨names, given, mem⟩
    cases given
    exact ⟨_, mem, (Value.equal_iff_eq usable.roleOf_cases (texts _ mem)).mpr rfl⟩

theorem check_permission (isText : permission.IsText) (usable : Usable session) :
    check host (.make .permission pattern permission target) session defaultHooks =
      .done (!session.isNull && permission.memberOf (permissionsOf session)) :=
  check_eq_of_grants (by decide) ⟨rfl, .inl rfl, isText⟩ usable
    (Value.memberOf_iff_mem isText usable.isText_of_mem_permissionsOf)

theorem check_permissions (texts : ∀ permission ∈ permissions, permission.IsText)
    (usable : Usable session) :
    check host (.make .permissions pattern (.list permissions) target) session defaultHooks =
      .done (!session.isNull && permissions.all (·.memberOf (permissionsOf session))) := by
  refine check_eq_of_grants (by decide) ⟨rfl, .inl rfl, permissions, rfl, texts⟩ usable ?_
  have granted : ∀ permission ∈ permissions,
      (permission.memberOf (permissionsOf session) = true ↔ permission ∈ permissionsOf session) :=
    fun permission mem =>
      Value.memberOf_iff_mem (texts permission mem) usable.isText_of_mem_permissionsOf
  rw [List.all_eq_true]
  constructor
  · exact fun all => ⟨permissions, rfl, fun name mem => (granted name mem).mp (all name mem)⟩
  · rintro ⟨names, given, all⟩ name mem
    cases given
    exact (granted name mem).mpr (all name mem)

end Engine

namespace Session

theorem listed_eq (host : Host) (valid : isValid session = true)
    (checked : optional (isTexts count limit) (fieldOf session name) = true) :
    ∃ held, listed host session name = .done held ∧
      ∀ value : Value, held.contains value = .ok (value.memberOf (textsOf session name)) := by
  have reads : listed host session name =
      .done (((fieldOf session name).getD .null).orElse (.list [])) := by
    rw [listed, get_eq_fieldOf valid]
    rfl
  refine ⟨_, reads, fun value => ?_⟩
  rcases texts_cases checked with ⟨null, none⟩ | ⟨items, found | found, same, -⟩
  · rw [null, none]
    rfl
  · rw [found, same]
    cases items <;> rfl
  · rw [found, same]
    cases items <;> rfl

theorem allIn_eq (contains : ∀ value, held.contains value = .ok (value.memberOf items)) :
    allIn held permissions = .ok (permissions.all (·.memberOf items)) := by
  induction permissions with
  | nil => rfl
  | cons permission rest ih =>
    rw [allIn, contains, List.all_cons, ih]
    cases permission.memberOf items <;> rfl

theorem anyIn_eq (contains : ∀ value, held.contains value = .ok (value.memberOf items)) :
    anyIn held permissions = .ok (permissions.any (·.memberOf items)) := by
  induction permissions with
  | nil => rfl
  | cons permission rest ih =>
    rw [anyIn, contains, List.any_cons, ih]
    cases permission.memberOf items <;> rfl

theorem settles_ask {question : Value → Process Bool}
    (current : Settles s (Context.session host) session)
    (answers : session ≠ .null → question session = .done answer) :
    Settles s (ask host question) (!session.isNull && answer) := by
  refine current.bind fun _ => ?_
  by_cases anonymous : session = .null
  · simp [anonymous]
  · have present := Value.isNull_eq_false_iff.mpr anonymous
    simp [present, answers anonymous]

theorem settles_isAuthenticated (current : Settles s (Context.session host) session) :
    Settles s (isAuthenticated host) (!session.isNull) :=
  current.bind fun _ => settles_done_iff.mpr rfl

theorem isAuthenticated_of_ask {question : Value → Process Bool}
    (current : Settles s (Context.session host) session)
    (yes : Settles s (ask host question) true) : Settles s (isAuthenticated host) true := by
  by_cases anonymous : session = .null
  · have no : Settles s (ask host question) (!session.isNull && false) :=
      settles_ask current fun present => absurd anonymous present
    rw [Bool.and_false] at no
    cases yes.unique no
  · rw [← Bool.not_false, ← Value.isNull_eq_false_iff.mpr anonymous]
    exact settles_isAuthenticated current

section Answers

variable (current : Settles s (Context.session host) session) (usable : Usable session)

include current usable

theorem settles_hasRole (role : Value) :
    Settles s (hasRole host role)
      (!session.isNull && ((roleOf session).equal role || role.memberOf (rolesOf session))) := by
  refine settles_ask current fun present => ?_
  have valid := usable.resolve_left present
  obtain ⟨held, reads, contains⟩ := listed_eq host valid (roles_checked valid)
  rw [roleIn, get_eq_fieldOf valid, reads]
  simp only [bind_eq, done_bind, contains]
  rw [roleOf]
  cases ((fieldOf session "role").getD .null).equal role <;> rfl

/-- What is made of the list of permissions is made of it in whatever form it is held. -/
theorem settles_ask_permissions {read : Value → Except Fault Bool}
    (reads : ∀ held : Value,
      (∀ value : Value, held.contains value = .ok (value.memberOf (permissionsOf session))) →
        read held = .ok answer) :
    Settles s (ask host fun session => do .ofExcept (read (← listed host session "permissions")))
      (!session.isNull && answer) := by
  refine settles_ask current fun present => ?_
  have valid := usable.resolve_left present
  obtain ⟨held, found, contains⟩ := listed_eq host valid (permissions_checked valid)
  rw [found, bind_eq, done_bind, reads held contains, ofExcept_ok]

theorem settles_hasPermission (permission : Value) :
    Settles s (hasPermission host permission)
      (!session.isNull && permission.memberOf (permissionsOf session)) :=
  settles_ask_permissions current usable fun _ contains => contains permission

theorem settles_hasAllPermissions (permissions : List Value) :
    Settles s (hasAllPermissions host permissions)
      (!session.isNull && permissions.all (·.memberOf (permissionsOf session))) :=
  settles_ask_permissions current usable fun _ contains => allIn_eq contains

theorem settles_hasAnyPermission (permissions : List Value) :
    Settles s (hasAnyPermission host permissions)
      (!session.isNull && permissions.any (·.memberOf (permissionsOf session))) :=
  settles_ask_permissions current usable fun _ contains => anyIn_eq contains

theorem hasPermission_iff (permission : Value) :
    Settles s (hasPermission host permission) true ↔
      session ≠ .null ∧ permission.memberOf (permissionsOf session) = true := by
  have settles := settles_hasPermission current usable permission
  rw [← Value.isNull_eq_false_iff, ← Bool.not_eq_true', ← Bool.and_eq_true]
  exact ⟨settles.unique, fun yes => yes ▸ settles⟩

end Answers

inductive Question where
  | role (role : Value)
  | permission (permission : Value)
  | all (permissions : List Value)
  | any (permissions : List Value)

def Question.ask (host : Host) : Question → Process Bool
  | .role role => hasRole host role
  | .permission permission => hasPermission host permission
  | .all permissions => hasAllPermissions host permissions
  | .any permissions => hasAnyPermission host permissions

theorem isAuthenticated_of_yes (current : Settles s (Context.session host) session)
    (question : Question) (yes : Settles s (question.ask host) true) :
    Settles s (isAuthenticated host) true := by
  cases question <;> exact isAuthenticated_of_ask current yes

/-- Rules and questions agree about the current session, and all of them come to an answer. A rule for
one permission, or for several, is satisfied where the question for the same is answered with yes. All
of several permissions are granted if there is a session and each of them is, and any of them if some
one is. Whoever satisfies a rule for a role has the role; with no additional roles the rule is satisfied
by whoever has it. A rule for several roles is satisfied where a rule for one of them is. -/
theorem rules_agree_with_questions (host : Host) (s : Surroundings) (session pattern target : Value)
    (current : Settles s (Context.session host) session) (usable : Usable session) :
    let satisfied (kind : RuleKind) (requirement : Value) (answer : Bool) : Prop :=
      Engine.check host (.make kind pattern requirement target) session defaultHooks = .done answer
    let answered (question : Question) (answer : Bool) : Prop :=
      Settles s (question.ask host) answer
    (∀ permission : Value, permission.IsText →
      ∃ answer, satisfied .permission permission answer ∧
        answered (.permission permission) answer) ∧
    (∀ permissions : List Value, (∀ permission ∈ permissions, permission.IsText) →
      (∃ answer, satisfied .permissions (.list permissions) answer ∧
        answered (.all permissions) answer ∧
        (answer = true ↔ session ≠ .null ∧
          ∀ permission ∈ permissions, answered (.permission permission) true)) ∧
      ∃ answer, answered (.any permissions) answer ∧
        (answer = true ↔ ∃ permission ∈ permissions, answered (.permission permission) true)) ∧
    (∀ role : Value, role.IsText →
      ∃ admitted answer, satisfied .role role admitted ∧ answered (.role role) answer ∧
        (admitted = true → answer = true) ∧ (rolesOf session = [] → admitted = answer)) ∧
    (∀ roles : List Value, (∀ role ∈ roles, role.IsText) →
      ∃ admitted, satisfied .roles (.list roles) admitted ∧
        (admitted = true ↔ ∃ role ∈ roles, satisfied .role role true)) ∧
    ∀ question, answered question true → Settles s (isAuthenticated host) true := by
  intro satisfied answered
  have granted := hasPermission_iff current usable
  refine ⟨fun permission isText => ?_, fun permissions texts => ⟨?_, ?_⟩, fun role isText => ?_,
    fun roles texts => ?_, isAuthenticated_of_yes current⟩
  · exact ⟨_, Engine.check_permission isText usable,
      settles_hasPermission current usable permission⟩
  · refine ⟨_, Engine.check_permissions texts usable,
      settles_hasAllPermissions current usable permissions, ?_⟩
    simp only [Bool.and_eq_true, Bool.not_eq_true', Value.isNull_eq_false_iff, List.all_eq_true]
    exact and_congr_right fun present => forall₂_congr fun permission _ =>
      ((granted permission).trans (and_iff_right present)).symm
  · refine ⟨_, settles_hasAnyPermission current usable permissions, ?_⟩
    simp only [Bool.and_eq_true, Bool.not_eq_true', Value.isNull_eq_false_iff, List.any_eq_true]
    constructor
    · rintro ⟨present, permission, mem, among⟩
      exact ⟨permission, mem, (granted permission).mpr ⟨present, among⟩⟩
    · rintro ⟨permission, mem, yes⟩
      obtain ⟨present, among⟩ := (granted permission).mp yes
      exact ⟨present, permission, mem, among⟩
  · refine ⟨_, _, Engine.check_role isText usable, settles_hasRole current usable role,
      fun admitted => ?_, fun none => ?_⟩
    · obtain ⟨present, same⟩ := (Bool.and_eq_true ..).mp admitted
      rw [present, same]
      rfl
    · rw [none, Value.memberOf, List.any_nil, Bool.or_false]
  · refine ⟨_, Engine.check_roles texts usable, ?_⟩
    have single : ∀ role ∈ roles, (satisfied .role role true ↔
        session ≠ .null ∧ (roleOf session).equal role = true) := by
      intro role mem
      simp [satisfied, Engine.check_role (texts role mem) usable]
    simp only [Bool.and_eq_true, Bool.not_eq_true', Value.isNull_eq_false_iff, List.any_eq_true]
    constructor
    · rintro ⟨present, role, mem, same⟩
      exact ⟨role, mem, (single role mem).mpr ⟨present, same⟩⟩
    · rintro ⟨role, mem, admitted⟩
      obtain ⟨present, same⟩ := (single role mem).mp admitted
      exact ⟨present, role, mem, same⟩

def clerk : Value :=
  .table [(.str "user_id", .str "ann"), (.str "role", .str "clerk"),
    (.str "roles", .tuple [.str "editor"]), (.str "permissions", .list [.str "read"])]

theorem clerk_agrees :
    let host : Host := .answering .null
    let s : Surroundings := ⟨{ config := some {} }, .context clerk⟩
    Engine.check host (.make .permission (.str "/files/*") (.str "read") .null) clerk defaultHooks =
        .done true ∧
      Settles s (hasPermission host (.str "read")) true ∧
      Settles s (isAuthenticated host) true := by
  intro host s
  have valid : isValid clerk = true := by
    simp [isValid, isValidTable, clerk, Value.table?, Value.opened, Table.field_cons, optional,
      isTexts, isText, isUserId]
    decide
  have current : Settles s (Context.session host) clerk := fun _ _ _ runs =>
    ((Context.runs_session_iff rfl rfl).mp runs).2.1
  obtain ⟨one, -, -, -, answered⟩ := rules_agree_with_questions host s clerk (.str "/files/*") .null
    current (.inr valid)
  obtain ⟨answer, checked, settles⟩ := one (.str "read") rfl
  have granted : answer = true := by
    rw [settles.unique (settles_hasPermission current (.inr valid) _)]
    simp [permissionsOf, textsOf, fieldOf, clerk, Value.table?, Value.opened, Table.field_cons, Value.isNull,
      Value.memberOf, Value.same]
  subst granted
  exact ⟨checked, settles, answered _ settles⟩

end Session

end Gatekeeper
