import Gatekeeper.Text.Blank
import Gatekeeper.Value.Access

/-! Protection rules: what they ask for, how they are written as tables, and which are valid. -/
namespace Gatekeeper

/-- Guards the paths that `pattern` matches. A null `redirectTo` leaves the target to the
configuration. -/
structure Rule where
  kind : RuleKind
  pattern : Value
  requirement : Value
  redirectTo : Value

namespace Rule

/-- A rule that lists roles or permissions keeps them in a form that does not change. -/
def make (kind : RuleKind) (pattern requirement redirectTo : Value) : Rule :=
  match kind, requirement.opened with
  | .roles, .list items | .permissions, .list items => ⟨kind, pattern, .tuple items, redirectTo⟩
  | _, _ => ⟨kind, pattern, requirement, redirectTo⟩

def toValue (rule : Rule) : Value :=
  .rule rule.kind rule.pattern rule.requirement rule.redirectTo

def ofRuleValue? : Value → Option Rule
  | .rule kind pattern requirement redirectTo => some ⟨kind, pattern, requirement, redirectTo⟩
  | _ => none

@[simp] theorem ofRuleValue?_toValue (rule : Rule) : ofRuleValue? rule.toValue = some rule := rfl

def equal (a b : Rule) : Bool :=
  a.toValue.equal b.toValue

def written (rule : Rule) : Except Fault Value :=
  match rule.kind with
  | .roles | .permissions => rule.requirement.items.map .list
  | _ => .ok rule.requirement

def toTable (rule : Rule) : Except Fault Table := do
  let requirement ← rule.written
  let entries := [(.str "pattern", rule.pattern), (.str rule.kind.field, requirement)]
  return if rule.redirectTo.isNull then entries
    else entries ++ [(.str "redirect_to", rule.redirectTo)]

def ofTable (entries : Table) : Except Fault Rule :=
  let present := RuleKind.all.filter fun kind => (Table.field entries kind.field).isSome
  match present with
  | [kind] =>
    match Table.field entries "pattern", Table.field entries kind.field with
    | some pattern, some requirement =>
      .ok (make kind pattern requirement ((Table.field entries "redirect_to").getD .null))
    | _, _ => .error (.config .missingPattern)
  | _ =>
    .error (.config (.ambiguous ((Table.field entries "pattern").getD .null) present))

def ofValue (value : Value) : Except Fault Rule :=
  match value.opened with
  | .table entries => ofTable entries
  | _ => .error (.config (.notTable value))

def isName : Value → Bool
  | .str text => Text.hasInk text
  | .torn _ => true
  | _ => false

def isNames : Value → Bool
  | .tuple items => items.all isName
  | _ => false

def isCallable : Value → Bool
  | .callback _ _ | .defaultRole | .defaultPermissions | .body => true
  | _ => false

def admits : RuleKind → Value → Bool
  | .role, value | .permission, value => isName value
  | .roles, value | .permissions, value => isNames value
  | .allow, value => isCallable value
  | .unrestricted, _ => true

def fault? (rule : Rule) : Option ConfigFault :=
  if !Pattern.isValid rule.pattern then some (.pattern rule.pattern)
  else if !rule.redirectTo.isNull && !Redirect.isValid rule.redirectTo then
    some (.redirect rule.redirectTo)
  else if !admits rule.kind rule.requirement then
    some (.requirement rule.kind rule.requirement rule.pattern)
  else none

def validate (rule : Rule) : Except Fault Unit :=
  match rule.fault? with
  | some fault => .error (.config fault)
  | none => .ok ()

end Rule

end Gatekeeper
