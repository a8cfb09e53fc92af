import Gatekeeper.Script
import Gatekeeper.Session.Saving
import Gatekeeper.Web.App

/-! Scenarios: runs of an application, written down as data. A step asks the library for something,
and steps that open a scope have steps of their own. -/
namespace Gatekeeper.Scenario

/-- A carrier of a session: one that all steps share by its name, or a value of its own. -/
inductive Carrier where
  | named (name : String)
  | given (value : Value)

inductive Query where
  | tokens (pattern : String)
  | accepts (pattern : String) (paths : List String)
  | patterns (values : List Value)
  | targets (values : List Value)
  | sessions (values : List Value)
  | validate (rule : Rule)
  | describe (rule : Except Fault Rule)
  | same (a b : Rule)
  | first (rules : List Rule) (paths : List String)
  | report (report : Report)
  | load (name : String) (entry : Document.Entry)
  | file (name : String) (entry : Document.Entry)
  | fault (fault : Fault)

inductive Detour where
  | direct
  | later
  | failing
deriving DecidableEq, Repr

inductive Endpoint where
  | steps
  | current
  | required
deriving DecidableEq, Repr

structure Visit where
  path : String
  session : Option Value

inductive Step where
  | query (query : Query)
  | check (rule : Rule) (session hooks : Value)
  | decide (path : String) (session : Option Value) (config : Option Config)
  | install (source : Source)
  | configure (keywords : Table)
  | config
  | reset
  | settings (value : Value)
  | environment
  | installEnvironment
  | installFile (name : String) (entry : Document.Entry)
  | setEnvironment (name : String) (value : Option String)
  | setting (start name : String) (fallback : Value)
  | production (start : String)
  | store (name : String) (value : Value)
  | carrier (carrier : Carrier)
  | storeOf (carrier : Carrier)
  | read (carrier : Carrier)
  | save (carrier : Carrier) (session : Value)
  | clear (carrier : Carrier)
  | update (carrier : Carrier) (changes : Value)
  | session
  | require
  | authenticated
  | hasRole (role : Value)
  | hasPermission (permission : Value)
  | hasAll (permissions : List Value)
  | hasAny (permissions : List Value)
  | context
  | setContext (context : Value)
  | held
  | pause (times : Nat)
  | within (session : Value) (steps : List Step)
  | guard (path : String) (plain : Bool) (detour : Detour) (steps : List Step)
  | request (carrier : Option Carrier) (path : Option String) (plain : Bool) (detour : Detour)
    (steps : List Step)
  | sequence (steps : List Step)
  | concurrent (tasks : List (List Step))
  | visit (name : String) (refusal : Web.Refusal) (source : Source ⊕ Table) (status : Option Nat)
    (endpoint : Endpoint) (visits : List Visit) (steps : List Step)
  /-- Requests that are stores themselves, unless there is a store for each path. -/
  | visitJoined (stores : Option Table) (endpoint : Endpoint) (visits : List Visit)
    (steps : List Step)

instance : Inhabited Step := ⟨.config⟩

structure Visited (α : Type) where
  outcome : Except Fault (Web.Outcome α)
  store : Option Value

inductive Answer where
  | nothing
  | truth (truth : Bool)
  | truths (truths : List Bool)
  | places (places : List (Option Nat))
  | tokens (tokens : List Pattern.Token)
  | rule (rule : Rule) (table : Table)
  | decision (decision : Decision) (table : Table)
  | config (config : Config)
  | settings (settings : Settings)
  | value (value : Value)
  | written (result carrier : Value)
  | steps (records : List (Process.Record Answer))
  | tasks (records : List (List (Process.Record Answer)))
  | next (records : Option (List (Process.Record Answer)))
  | redirect (later : Bool) (target : Value)
  | visited (app : Option (Config × List Web.Layer)) (visits : List (Visited Answer))

abbrev Record := Process.Record Answer

end Gatekeeper.Scenario
