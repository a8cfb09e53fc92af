import Gatekeeper.Process.Gather
import Gatekeeper.Process.Run
import Gatekeeper.Scenario.Step

/-! What the steps of a scenario come to. A step that fails ends by itself; the steps after it go
on. -/
namespace Gatekeeper.Scenario

namespace Carrier

def load : Carrier → Process Value
  | .given value => .done value
  | .named name => Session.carrier name

/-- What a carrier that is given is called while it is written to. -/
def givenName : String := "@given"

def name : Carrier → Process String
  | .given value => do
    Process.request (.store givenName value)
    return givenName
  | .named name => do
    let _ ← Session.carrier name
    return name

end Carrier

def firstPlace (rules : List Rule) (path : String) : Except Fault (Option Nat) :=
  match rules with
  | [] => .ok none
  | rule :: rest => do
    if ← matchValue rule.pattern path then return some 0
    return (← firstPlace rest path).map (· + 1)

/-- The answer to a question. It is told in full, so what holds itself is none. -/
def Query.answer (host : Host) : Query → Except Fault Answer
  | .tokens pattern => .ok (.tokens (Pattern.compile pattern))
  | .accepts pattern paths => .ok (.truths (paths.map (Pattern.accepts pattern)))
  | .patterns values => .ok (.truths (values.map Pattern.isValid))
  | .targets values => .ok (.truths (values.map Redirect.isValid))
  | .sessions values => .ok (.truths (values.map Session.isValid))
  | .validate rule => do
    rule.validate
    return .nothing
  | .describe rule => do
    let rule ← rule
    return .rule rule (← rule.toTable)
  | .same a b => .ok (.truth (a.equal b))
  | .first rules paths => do return .places (← paths.mapM (firstPlace rules))
  | .report told => .error (.reported told)
  | .load name entry => do
    let entries := Value.table (← Document.load host.yaml name entry)
    if entries.isFinite then return .value entries else throw .tooDeep
  | .file name entry => do
    let settings ← Settings.ofFile host name entry
    if settings.loginPath.isFinite && settings.protect.isFinite then return .settings settings
    else throw .tooDeep
  | .fault found => .error found

def written (carrier : Carrier) (call : String → Process Value) : Process Answer := do
  let name ← carrier.name
  let result ← call name
  return .written result (← Session.carrier name)

def Detour.take (detour : Detour) (target : Value) : Process Answer :=
  match detour with
  | .direct => .done (.redirect false target)
  | .later => do
    Process.pause
    return .redirect true target
  | .failing => .fail (.raised ("redirect:" ++ target.text))

def guarded (host : Host) (path : String) (plain : Bool) (detour : Detour)
    (steps : Process (List Record)) : Process Answer :=
  Engine.guard host path
    (if plain then pure (.next none) else (Answer.next ∘ some) <$> steps) detour.take

def requested (host : Host) (carrier : Option Carrier) (work : Process Answer) :
    Process Answer := do
  let store ← match carrier with
    | some carrier => pure (Session.store (← carrier.load))
    | none => pure .null
  match ← Session.enter host store work with
  | .inl value => return .value value
  | .inr answer => return answer

def requestName : String := "@request"

def Endpoint.work (host : Host) (steps : Process (List Record)) :
    Endpoint → Process Answer
  | .steps => do return .steps (← steps)
  | .current => do return .value (← Context.session host)
  | .required => do return .value (← Session.require host)

def scopeStore (visit : Visit) : Value → Option Value
  | .scopedRequest session => visit.session.map fun _ => session
  | _ => none

/-- What a request that is a store shows of itself. Its own entries start with a low line. -/
def ownStore : Value → Option Value
  | .ownRequest entries => some (.table (entries.filter fun entry =>
      match entry.1 with
      | .str name => !name.startsWith "_" || Session.key.equal entry.1
      | _ => true))
  | _ => none

def visitOne (host : Host) (app : Web.App) (path : String) (carrier store : Value)
    (shown : Value → Option Value) (work : Process Answer) : Process (Visited Answer) := do
  Process.request (.store requestName carrier)
  let outcome ← (app.answer host ⟨path, store⟩ work).attempt
  let after ← Process.request (.stored requestName)
  return ⟨outcome, after.bind shown⟩

def visitScoped (host : Host) (app : Web.App) (work : Process Answer) (visit : Visit) :
    Process (Visited Answer) :=
  let carrier := Value.scopedRequest (visit.session.getD .null)
  visitOne host app visit.path carrier (Session.store carrier) (scopeStore visit) work

def visitOwn (host : Host) (stores : Option Table) (work : Process Answer) (visit : Visit) :
    Process (Visited Answer) :=
  let carrier := Value.ownRequest ((visit.session.bind Value.table?).getD [])
  let store := match stores with
    | some stores => (Table.field stores visit.path).getD .null
    | none => Session.store carrier
  visitOne host .joined visit.path carrier store ownStore work

mutual

def Step.run (host : Host) : Step → Process Answer
  | .query query => .ofExcept (query.answer host)
  | .check rule session hooks => do return .truth (← Engine.check host rule session hooks)
  | .decide path session config => do
    let provider := config.elim Process.config Process.done
    let decision ← Engine.decide host provider path session
    return .decision decision (← .ofExcept decision.toTable)
  | .install source => do return .config (← Config.install host source)
  | .configure keywords => do return .config (← Config.configure host keywords)
  | .config => do return .config (← Process.config)
  | .reset => do
    Config.reset
    return .nothing
  | .settings value => do return .settings (← Settings.ofValue host value)
  | .environment => do return .settings (← Settings.ofEnvironment)
  | .installEnvironment => do
    return .config (← Config.install host (.ready (← Settings.ofEnvironment)))
  | .installFile name entry => do
    return .config (← Config.install host (.ready (← .ofExcept (Settings.ofFile host name entry))))
  | .setEnvironment name value => do
    Process.request (.setEnvironment name value)
    return .nothing
  | .setting start name fallback => do
    return .value (((← Environment.setting? start name).map Value.str).getD fallback)
  | .production start => do return .truth (← Environment.isProduction start)
  | .store name value => do
    Process.request (.store name value)
    return .nothing
  | .carrier carrier => do return .value (← carrier.load)
  | .storeOf carrier => do return .value (Session.store (← carrier.load))
  | .read carrier => do return .value (← Session.read host (← carrier.load))
  | .save carrier session => written carrier fun name => do
    Session.save name session
    return .null
  | .clear carrier => written carrier fun name => do
    Session.clear name
    return .null
  | .update carrier changes => written carrier (Session.update host · changes)
  | .session => do return .value (← Context.session host)
  | .require => do return .value (← Session.require host)
  | .authenticated => do return .truth (← Session.isAuthenticated host)
  | .hasRole role => do return .truth (← Session.hasRole host role)
  | .hasPermission permission => do return .truth (← Session.hasPermission host permission)
  | .hasAll permissions => do return .truth (← Session.hasAllPermissions host permissions)
  | .hasAny permissions => do return .truth (← Session.hasAnyPermission host permissions)
  | .context => do return .value (← Context.current host)
  | .setContext context => do
    Context.set host context
    return .nothing
  | .held => do return .value (← Process.request .held)
  | .pause times => do
    Process.pauses times
    return .nothing
  | .within session steps => do
    return .steps (← Context.within (.context session) (runAll host steps))
  | .guard path plain detour steps => guarded host path plain detour (runAll host steps)
  | .request carrier path plain detour steps =>
    requested host carrier <|
      match path with
      | some path => guarded host path plain detour (runAll host steps)
      | none => do return .steps (← runAll host steps)
  | .sequence steps => do return .steps (← runAll host steps)
  | .concurrent tasks => do
    let results ← Process.gather (runTasks host tasks)
    return .tasks (← .ofExcept (results.mapM id))
  | .visit name refusal source status endpoint visits steps => do
    let configure := source.elim (Config.install host) (Config.configure host)
    let (installed, app) ← Web.App.bare.install name refusal configure
    let config ← .ofExcept installed
    let kept := app.refusal.filter (· = .detailed)
    let app := (status.map (Web.App.redirecting kept)).getD app
    let work := endpoint.work host (runAll host steps)
    return .visited (some (config, app.layers)) (← visits.mapM (visitScoped host app work))
  | .visitJoined stores endpoint visits steps => do
    let work := endpoint.work host (runAll host steps)
    return .visited none (← visits.mapM (visitOwn host stores work))

def runAll (host : Host) : List Step → Process (List Record)
  | [] => .done []
  | step :: rest => do
    let record ← (step.run host).record
    return record :: (← runAll host rest)

def runTasks (host : Host) : List (List Step) → List (Process (List Record))
  | [] => []
  | steps :: rest => runAll host steps :: runTasks host rest

end

def Step.result (step : Step) (host : Host) : Record :=
  match ((step.run host).record.run {}).1 with
  | .ok record => record
  | .error fault => ⟨.error fault, [], []⟩

end Gatekeeper.Scenario
