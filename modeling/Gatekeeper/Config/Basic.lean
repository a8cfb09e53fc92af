import Gatekeeper.Rule.Basic

/-! Configurations. `Settings` are what a host supplies, unchecked; a `Config` is a snapshot that
requests are decided by. The only way from one to the other is `resolve`, which checks all of it. -/
namespace Gatekeeper

def defaultHooks : Value :=
  .hooks .defaultRole .defaultPermissions .null

def defaultLogin : Value := .str "/login"

structure Settings where
  loginPath : Value := defaultLogin
  protect : Value := .list []
  access : Value := defaultHooks
  runner : Value := .null
  getContext : Value := .null
  setContext : Value := .null

structure Config where
  loginPath : Value := defaultLogin
  protect : List Rule := []
  access : Value := defaultHooks
  runner : Value := .null
  getContext : Value := .null
  setContext : Value := .null

def hooksOfTable (entries : Table) : Except Fault Value :=
  let known := ["get_role", "get_permissions", "check"]
  let named := entries.all fun entry =>
    match entry.1 with
    | .str name => known.contains name
    | _ => false
  if named then
    .ok (.hooks ((Table.field entries "get_role").getD .defaultRole)
      ((Table.field entries "get_permissions").getD .defaultPermissions)
      ((Table.field entries "check").getD .null))
  else .error .wrongType

namespace Settings

def fields : List String :=
  ["login_path", "protect", "access", "run_with_context", "get_context_store", "set_context_store"]

def ofKeywords (entries : Table) : Except Fault Settings :=
  let named := entries.all fun entry =>
    match entry.1 with
    | .str name => fields.contains name
    | _ => false
  if named then
    .ok {
      loginPath := (Table.field entries "login_path").getD defaultLogin
      protect := (Table.field entries "protect").getD (.list [])
      access := (Table.field entries "access").getD defaultHooks
      runner := (Table.field entries "run_with_context").getD .null
      getContext := (Table.field entries "get_context_store").getD .null
      setContext := (Table.field entries "set_context_store").getD .null }
  else .error .wrongType

/-- Access functions in any of their forms; whatever counts as no leaves the usual ones. -/
def accessOf (given : Value) : Except Fault Value :=
  let access := given.orElse defaultHooks
  match access.opened with
  | .table named => hooksOfTable named
  | _ => .ok access

def rulesOf (given : Value) : Except Fault Value :=
  (given.orElse (.list [])).items.map .list

def ofTable (entries : Table) : Except Fault Settings := do
  let access ← accessOf ((Table.field entries "access").getD .null)
  let protect ← rulesOf ((Table.field entries "protect").getD .null)
  return {
    loginPath := (Table.field entries "login_path").getD defaultLogin
    protect := protect
    access := access
    runner := (Table.field entries "run_with_context").getD .null
    getContext := (Table.field entries "get_context_store").getD .null
    setContext := (Table.field entries "set_context_store").getD .null }

/-- The settings in a configuration file: a login path and rules, and nothing else. -/
def ofFileTable (entries : Table) : Except Fault Settings := do
  let protect ← rulesOf ((Table.field entries "protect").getD .null)
  return {
    loginPath := (Table.field entries "login_path").getD defaultLogin
    protect := protect }

def resolveRule (value : Value) : Except Fault Rule := do
  let rule ← match Rule.ofRuleValue? value with
    | some rule => .ok rule
    | none => Rule.ofValue value
  rule.validate
  return rule

/-- Checks settings in order: the login path, each rule, the pair of context functions. -/
def resolve (settings : Settings) : Except Fault Config := do
  if !Redirect.isValid settings.loginPath then
    throw (.config (.loginPath settings.loginPath))
  let rules ← (← settings.protect.items).mapM resolveRule
  if settings.getContext.isNull != settings.setContext.isNull then
    throw (.config .unpaired)
  return {
    loginPath := settings.loginPath
    protect := rules
    access := settings.access.orElse defaultHooks
    runner := settings.runner
    getContext := settings.getContext
    setContext := settings.setContext }

end Settings

inductive Source where
  | ready (settings : Settings)
  | raw (value : Value)

def Source.settings? : Source → Except Fault Settings
  | .ready settings => .ok settings
  | .raw value =>
    match value.opened with
    | .null => .ok {}
    | .table entries => Settings.ofTable entries
    | _ => .error .noAttribute

def Source.resolve (source : Source) : Except Fault Config := do
  (← source.settings?).resolve

def Config.announcement (loginPath : Value) (rules : Nat) : String :=
  "SessionKit configured: login_path=" ++ loginPath.text ++ ", " ++ toString rules ++
    " protection rule(s)"

end Gatekeeper
