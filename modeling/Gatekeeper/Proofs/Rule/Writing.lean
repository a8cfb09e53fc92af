import Gatekeeper.Proofs.Rule.Flaws
import Gatekeeper.Proofs.Table
import Gatekeeper.Proofs.Value.Equality

/-! Rules written as tables. A valid rule is read back from the table that it is written as, and the table
that a rule was read from says all that is written of it. -/
namespace Gatekeeper

variable {entries : Table} {kind : RuleKind} {value key pattern target : Value} {rule : Rule}

def Value.relisted (value : Value) : Value :=
  match value.opened with
  | .tuple items => .list items
  | other => other

theorem RuleKind.field_ne (kind : RuleKind) :
    kind.field ≠ "pattern" ∧ kind.field ≠ "redirect_to" := by
  cases kind <;> decide

/-- What is left of an entry of a table when only what says something of a rule of a kind is kept: its
pattern, what it asks for, and a target that is not null. -/
def RuleKind.keeps (kind : RuleKind) : Value → Value → Option Value
  | .str name, value =>
    if name = "pattern" then some value
    else if name = kind.field then some value.relisted
    else if name = "redirect_to" ∧ value.isNull = false then some value
    else none
  | _, _ => none

namespace Rule

@[simp] theorem kind_make : (make kind pattern value target).kind = kind := by
  unfold make
  split <;> rfl

@[simp] theorem pattern_make : (make kind pattern value target).pattern = pattern := by
  unfold make
  split <;> rfl

@[simp] theorem redirectTo_make : (make kind pattern value target).redirectTo = target := by
  unfold make
  split <;> rfl

theorem relisted_make :
    (make kind pattern value target).requirement.relisted = value.relisted := by
  unfold make
  split
  next same =>
    simp only [Value.relisted, same]
    rfl
  next same =>
    simp only [Value.relisted, same]
    rfl
  next => rfl

/-- What lists texts is a tuple, and nothing else that a rule may ask for is a sequence. -/
theorem requirement_cases (known : kind ∈ RuleKind.all) (admitted : admits kind value = true) :
    ((kind = .roles ∨ kind = .permissions) ∧ ∃ items, value = .tuple items) ∨
      kind ≠ .roles ∧ kind ≠ .permissions ∧ value.relisted = value := by
  cases kind with
  | role | permission =>
    refine .inr ⟨by decide, by decide, ?_⟩
    cases value with
    | str | torn => rfl
    | _ => cases admitted
  | roles | permissions =>
    cases value with
    | tuple items => exact .inl ⟨by decide, items, rfl⟩
    | _ => cases admitted
  | allow =>
    refine .inr ⟨by decide, by decide, ?_⟩
    cases value with
    | callback | defaultRole | defaultPermissions | body => rfl
    | _ => cases admitted
  | unrestricted => exact absurd known (by decide)

theorem Valid.written_eq (valid : rule.Valid) (known : rule.kind ∈ RuleKind.all) :
    rule.written = .ok rule.requirement.relisted := by
  unfold written
  rcases requirement_cases known valid.requirement with
    ⟨roles | permissions, items, same⟩ | ⟨notRoles, notPermissions, same⟩
  · rw [roles, same]
    rfl
  · rw [permissions, same]
    rfl
  · rw [same]
    split <;> first | contradiction | rfl

theorem Valid.make_relisted (valid : rule.Valid) (known : rule.kind ∈ RuleKind.all) :
    make rule.kind rule.pattern rule.requirement.relisted rule.redirectTo = rule := by
  obtain ⟨kind, pattern, requirement, target⟩ := rule
  rcases requirement_cases known valid.requirement with
    ⟨roles | permissions, items, same⟩ | ⟨notRoles, notPermissions, same⟩
  · dsimp only at roles same ⊢
    rw [roles, same]
    rfl
  · dsimp only at permissions same ⊢
    rw [permissions, same]
    rfl
  · dsimp only at notRoles notPermissions same ⊢
    rw [same]
    unfold make
    split <;> first | contradiction | rfl

theorem equal_self (rule : Rule) : rule.equal rule = true := by
  rw [equal, Value.equal, Value.same_self]
  rfl

def described (rule : Rule) : Table :=
  [(.str "pattern", rule.pattern), (.str rule.kind.field, rule.requirement.relisted)] ++
    if rule.redirectTo.isNull then [] else [(.str "redirect_to", rule.redirectTo)]

theorem Valid.toTable_eq (valid : rule.Valid) (known : rule.kind ∈ RuleKind.all) :
    rule.toTable = .ok rule.described := by
  unfold toTable described
  rw [valid.written_eq known]
  cases rule.redirectTo.isNull <;> rfl

theorem field_described (rule : Rule) (name : String) :
    Table.field rule.described name =
      if name = "pattern" then some rule.pattern
      else if name = rule.kind.field then some rule.requirement.relisted
      else if name = "redirect_to" ∧ rule.redirectTo.isNull = false then some rule.redirectTo
      else none := by
  unfold described
  rw [List.cons_append, List.singleton_append, Table.field_cons, Table.field_cons]
  simp only [eq_comm (a := name)]
  by_cases absent : rule.redirectTo = .null <;> simp [absent, Table.field_cons]

theorem names_described (known : rule.kind ∈ RuleKind.all) :
    Table.Names rule.described rule.kind := by
  refine ⟨known, fun other _ => ?_⟩
  rw [field_described, if_neg other.field_ne.1]
  by_cases same : other = rule.kind
  · simp [same]
  · have apart : other.field ≠ rule.kind.field := fun fields => same (RuleKind.field_injective fields)
    simp [same, apart, other.field_ne.2]

theorem Valid.ofTable_described (valid : rule.Valid) (known : rule.kind ∈ RuleKind.all) :
    ofTable rule.described = .ok rule := by
  have route : Table.field rule.described "pattern" = some rule.pattern := by simp [field_described]
  have asked : Table.field rule.described rule.kind.field = some rule.requirement.relisted := by
    simp [field_described, rule.kind.field_ne.1]
  have kept : (Table.field rule.described "redirect_to").getD .null = rule.redirectTo := by
    rw [field_described, if_neg (by decide), if_neg rule.kind.field_ne.2.symm]
    by_cases absent : rule.redirectTo = .null <;> simp [absent]
  rw [ofTable_of_names (names_described known) route asked, kept, valid.make_relisted known]

theorem find_described_of_ne (other : ∀ name, key ≠ .str name) :
    Table.find rule.described key = none := by
  have apart : ∀ name, ¬ key.same (.str name) = true := by
    intro name same
    exact other name (Value.same_str_iff.mp same)
  unfold described
  rw [List.cons_append, List.singleton_append, Table.find_cons_of_not_same (apart _),
    Table.find_cons_of_not_same (apart _)]
  split
  · rfl
  · exact Table.find_cons_of_not_same (apart _)

theorem find_described (found : ofTable entries = .ok rule) (key : Value) :
    Table.find rule.described key = (Table.find entries key).bind (rule.kind.keeps key) := by
  obtain ⟨kind, pattern, requirement, -, route, asked, rfl⟩ := names_of_ofTable found
  cases key with
  | str name =>
    change Table.field _ name = (Table.field entries name).bind _
    rw [field_described]
    simp only [RuleKind.keeps, kind_make, pattern_make, redirectTo_make, relisted_make]
    by_cases isPattern : name = "pattern"
    · rw [isPattern, route]
      rfl
    by_cases isAsked : name = kind.field
    · rw [isAsked, asked, Option.bind_some, RuleKind.keeps]
      simp [kind.field_ne.1]
    by_cases isTarget : name = "redirect_to"
    · subst isTarget
      cases Table.field entries "redirect_to" <;> simp [RuleKind.keeps, isAsked]
    · cases Table.field entries name <;> simp [RuleKind.keeps, isPattern, isAsked, isTarget]
  | _ =>
    rw [find_described_of_ne (by simp)]
    cases Table.find entries _ <;> rfl

end Rule

end Gatekeeper
