import Gatekeeper.Context
import Gatekeeper.Pattern.Matcher

/-! Deciding requests. The first rule whose pattern matches a path has the say; a path that no rule
matches is open. -/
namespace Gatekeeper

/-- Whether a pattern of any kind matches a path. A sequence of single characters is read as their
text; bytes match nothing but an empty path, and no path has halves of characters. -/
def matchValue (pattern : Value) (path : String) : Except Fault Bool :=
  match pattern with
  | .str text => .ok (Pattern.accepts text path)
  | .tuple items =>
    if pattern.hashable then
      let chars := items.filterMap fun item =>
        match item with
        | .str text => match text.toList with
          | [char] => some char
          | _ => none
        | _ => none
      .ok (chars.length == items.length && Pattern.accepts (String.ofList chars) path)
    else .error .wrongType
  | .bytes data => .ok (data.isEmpty && path.isEmpty)
  | .torn _ => .ok false
  | _ => .error .wrongType

def findRule (rules : List Rule) (path : String) : Except Fault (Option Rule) :=
  match rules with
  | [] => .ok none
  | rule :: rest => do
    if ← matchValue rule.pattern path then return some rule
    findRule rest path

def allGranted (granted : List Value) : List Value → Except Fault Bool
  | [] => .ok true
  | value :: rest =>
    if !value.hashable then .error .wrongType
    else if value.memberOf granted then allGranted granted rest
    else .ok false

inductive Variant where
  | check
  | rule (kind : RuleKind)
deriving DecidableEq

def Variant.name : Variant → String
  | .check => "check"
  | .rule kind => kind.field

structure Evaluation where
  variant : Variant
  authenticated : Bool

inductive Decision where
  | unprotected
  | unmatched
  | admitted (rule : Rule) (evaluation : Evaluation)
  | denied (rule : Rule) (target : Value) (evaluation : Evaluation)

namespace Decision

def allowed : Decision → Bool
  | .denied _ _ _ => false
  | _ => true

def rule? : Decision → Option Rule
  | .admitted rule _ | .denied rule _ _ => some rule
  | _ => none

def redirectTo : Decision → Value
  | .denied _ target _ => target
  | _ => .null

def evaluation? : Decision → Option Evaluation
  | .admitted _ evaluation | .denied _ _ evaluation => some evaluation
  | _ => none

def reason : Decision → String
  | .unprotected => "No protection rules configured"
  | .unmatched => "No matching rule"
  | .admitted rule _ => "Access allowed by rule " ++ rule.pattern.text
  | .denied rule _ _ => "Access denied by rule " ++ rule.pattern.text

def toTable (decision : Decision) : Except Fault Table := do
  let rule ← match decision.rule? with
    | some rule => rule.toTable.map Value.table
    | none => .ok .null
  let details := match decision.evaluation? with
    | some evaluation =>
      [(.str "variant", .str evaluation.variant.name),
       (.str "authenticated", .bool evaluation.authenticated)]
    | none => []
  return [(.str "allowed", .bool decision.allowed), (.str "reason", .str decision.reason),
    (.str "rule", rule), (.str "redirect_to", decision.redirectTo),
    (.str "metadata", .table details)]

end Decision

namespace Engine

variable {α : Type}

def satisfies (host : Host) (rule : Rule) (session access : Value) : Process Bool :=
  match rule.kind with
  | .role => do
    let role ← host.invoke (← .ofExcept (access.attr "get_role")) [session]
    return role.equal rule.requirement
  | .roles => do
    let role ← host.invoke (← .ofExcept (access.attr "get_role")) [session]
    if role.isNull then return false
    .ofExcept (rule.requirement.contains role)
  | .permission => do
    let granted ← host.invoke (← .ofExcept (access.attr "get_permissions")) [session]
    .ofExcept (granted.contains rule.requirement)
  | .permissions => do
    let granted ← host.invoke (← .ofExcept (access.attr "get_permissions")) [session]
    let granted ← .ofExcept granted.items
    if !granted.all Value.hashable then .fail .wrongType
    else .ofExcept (do allGranted granted (← rule.requirement.items))
  | .allow | .unrestricted => return true

/-- What a rule says by itself. Only a rule with a function of its own sees requests without a
session. -/
def evaluate (host : Host) (rule : Rule) (session access : Value) : Process Bool :=
  if rule.kind = .allow then do
    return (← host.consult rule.requirement [session]).truthy
  else if session.isNull then return false
  else satisfies host rule session access

/-- Whether a session satisfies a rule. A check function of the host overrides the rule. -/
def check (host : Host) (rule : Rule) (session access : Value) : Process Bool := do
  let override ← .ofExcept (access.attr "check")
  if override.isNull then evaluate host rule session access
  else return (← host.consult override [rule.toValue, session]).truthy

/-- Decides a path. Without a session given, that of the current context counts. -/
def decide (host : Host) (provider : Process Config) (path : String) (session : Option Value) :
    Process Decision := do
  let config ← provider
  if config.protect.isEmpty then return .unprotected
  match ← .ofExcept (findRule config.protect path) with
  | none => return .unmatched
  | some rule =>
    let session ← match session with
      | some session => pure session
      | none => Context.session host
    let allowed ← check host rule session config.access
    let override ← .ofExcept (config.access.attr "check")
    let evaluation : Evaluation :=
      ⟨if override.isNull then .rule rule.kind else .check, !session.isNull⟩
    let decision : Decision :=
      if allowed then .admitted rule evaluation
      else .denied rule (rule.redirectTo.orElse config.loginPath) evaluation
    Process.log .debug .guard (path ++ ": " ++ decision.reason)
    return decision

def guard (host : Host) (path : String) (next : Process α) (redirect : Value → Process α) :
    Process α := do
  let decision ← decide host .config path none
  if decision.allowed then next else redirect decision.redirectTo

end Engine

end Gatekeeper
