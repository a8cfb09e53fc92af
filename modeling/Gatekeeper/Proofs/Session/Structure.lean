import Gatekeeper.Host
import Gatekeeper.Proofs.Table
import Gatekeeper.Proofs.Value
import Gatekeeper.Session.Structure

/-! What a valid session answers when it is asked for its role and its permissions. It is a table, so
no function of the host has a part in the answers. -/
namespace Gatekeeper.Session

variable {host : Host} {session value : Value} {name : String} {count limit : Nat}

def fieldOf (session : Value) (name : String) : Option Value :=
  session.table?.bind fun entries => Table.field entries name

def roleOf (session : Value) : Value :=
  (fieldOf session "role").getD .null

def textsOf (session : Value) (name : String) : List Value :=
  match fieldOf session name with
  | some (.list items) | some (.tuple items) => items
  | _ => []

def permissionsOf (session : Value) : List Value :=
  textsOf session "permissions"

abbrev rolesOf (session : Value) : List Value :=
  textsOf session "roles"

theorem isText_of_bounded (bounded : isText limit value = true) : value.IsText := by
  cases value <;> first | rfl | cases bounded

theorem isTexts_cases (bounded : isTexts count limit value = true) :
    ∃ items, (value = .list items ∨ value = .tuple items) ∧ ∀ item ∈ items, item.IsText := by
  cases value with
  | list items =>
    refine ⟨items, .inl rfl, fun item mem => ?_⟩
    simp only [isTexts, Bool.and_eq_true, List.all_eq_true] at bounded
    exact isText_of_bounded (bounded.2 item mem)
  | tuple items =>
    refine ⟨items, .inr rfl, fun item mem => ?_⟩
    simp only [isTexts, Bool.and_eq_true, List.all_eq_true] at bounded
    exact isText_of_bounded (bounded.2 item mem)
  | _ => cases bounded

theorem optional_cases {check : Value → Bool} {field : Option Value}
    (checked : optional check field = true) :
    field.getD .null = .null ∨ ∃ value, field = some value ∧ check value = true := by
  unfold optional at checked
  split at checked
  · exact .inl rfl
  · exact .inl rfl
  · exact .inr ⟨_, rfl, checked⟩

theorem exists_entries_of_isValid (valid : isValid session = true) :
    ∃ entries, session.table? = some entries ∧ isValidTable entries = true :=
  (Option.any_eq_true ..).mp valid

theorem truthy_of_isValid (valid : isValid session = true) : session.truthy = true := by
  obtain ⟨entries, table, checked⟩ := exists_entries_of_isValid valid
  have inhabited : entries ≠ [] := by
    rintro rfl
    cases checked
  cases session <;> first | rfl | (cases table; simpa [Value.truthy] using inhabited) | cases table

theorem ne_null_of_isValid (valid : isValid session = true) : session ≠ .null := by
  rintro rfl
  cases valid

theorem get_eq_fieldOf (valid : isValid session = true) :
    host.get session (.str name) = .done ((fieldOf session name).getD .null) := by
  obtain ⟨entries, table, -⟩ := exists_entries_of_isValid valid
  have plain : host.get session (.str name) = .ofExcept (session.get (.str name)) := by
    cases session with
    | object => cases table
    | _ => rfl
  rw [plain, Value.get, table, fieldOf, table]
  rfl

theorem roleOf_cases (valid : isValid session = true) :
    roleOf session = .null ∨ (roleOf session).IsText := by
  obtain ⟨entries, table, checked⟩ := exists_entries_of_isValid valid
  simp only [isValidTable, Bool.and_eq_true] at checked
  unfold roleOf fieldOf
  rw [table, Option.bind_some]
  rcases optional_cases checked.1.1.2 with null | ⟨role, found, bounded⟩
  · exact .inl null
  · rw [found]
    exact .inr (isText_of_bounded bounded)

theorem texts_cases (checked : optional (isTexts count limit) (fieldOf session name) = true) :
    ((fieldOf session name).getD .null = .null ∧ textsOf session name = []) ∨
    ∃ items, (fieldOf session name = some (.list items) ∨
        fieldOf session name = some (.tuple items)) ∧
      textsOf session name = items ∧ ∀ item ∈ items, item.IsText := by
  unfold textsOf
  rcases optional_cases checked with null | ⟨value, found, bounded⟩
  · refine .inl ⟨null, ?_⟩
    cases found : fieldOf session name with
    | none => rfl
    | some value =>
      rw [found] at null
      obtain rfl : value = .null := null
      rfl
  · obtain ⟨items, rfl | rfl, texts⟩ := isTexts_cases bounded
    · exact .inr ⟨items, .inl found, by rw [found], texts⟩
    · exact .inr ⟨items, .inr found, by rw [found], texts⟩

theorem roles_checked (valid : isValid session = true) :
    optional (isTexts maxRoles maxRole) (fieldOf session "roles") = true := by
  obtain ⟨entries, table, checked⟩ := exists_entries_of_isValid valid
  simp only [isValidTable, Bool.and_eq_true] at checked
  rw [fieldOf, table]
  exact checked.1.2

theorem permissions_checked (valid : isValid session = true) :
    optional (isTexts maxPermissions maxPermission) (fieldOf session "permissions") = true := by
  obtain ⟨entries, table, checked⟩ := exists_entries_of_isValid valid
  simp only [isValidTable, Bool.and_eq_true] at checked
  rw [fieldOf, table]
  exact checked.2

theorem permissions_cases (valid : isValid session = true) :
    ((fieldOf session "permissions").getD .null = .null ∧ permissionsOf session = []) ∨
    ∃ items, (fieldOf session "permissions" = some (.list items) ∨
        fieldOf session "permissions" = some (.tuple items)) ∧
      permissionsOf session = items ∧ ∀ item ∈ items, item.IsText :=
  texts_cases (permissions_checked valid)

theorem isText_of_mem_permissionsOf (valid : isValid session = true) :
    ∀ item ∈ permissionsOf session, item.IsText := by
  rcases permissions_cases valid with ⟨-, none⟩ | ⟨items, -, same, texts⟩
  · simp [none]
  · rwa [same]

theorem role_eq (valid : isValid session = true) : host.role session = .done (roleOf session) := by
  rw [Host.role, truthy_of_isValid valid, if_pos rfl, get_eq_fieldOf valid]
  rfl

/-- The usual function for permissions makes one list of them, in whatever form they are listed. -/
theorem permissions_eq (valid : isValid session = true) :
    host.permissions session = .done (.list (permissionsOf session)) := by
  rw [Host.permissions, truthy_of_isValid valid, if_pos rfl, get_eq_fieldOf valid]
  rcases permissions_cases valid with ⟨null, none⟩ | ⟨items, found | found, same, -⟩
  · rw [null, none]
    rfl
  · rw [found, same]
    cases items <;> rfl
  · rw [found, same]
    cases items <;> rfl

/-- There is no session, or it is a valid one. -/
def Usable (session : Value) : Prop :=
  session = .null ∨ isValid session = true

theorem Usable.roleOf_cases (usable : Usable session) :
    roleOf session = .null ∨ (roleOf session).IsText := by
  rcases usable with rfl | valid
  · exact .inl rfl
  · exact Session.roleOf_cases valid

theorem Usable.isText_of_mem_permissionsOf (usable : Usable session) :
    ∀ item ∈ permissionsOf session, item.IsText := by
  rcases usable with rfl | valid
  · simp [permissionsOf, textsOf, fieldOf, Value.table?, Value.opened]
  · exact Session.isText_of_mem_permissionsOf valid

end Gatekeeper.Session
