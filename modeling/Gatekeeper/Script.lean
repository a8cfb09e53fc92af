import Gatekeeper.Context

/-! Scripted functions of a host. Each does one simple thing with its arguments; the last argument
is its subject. They let a whole run be written down as data. -/
namespace Gatekeeper

inductive Action where
  | give (value : Value)
  | raise (message : String)
  | get (key : Value)
  | path (keys : List Value)
  | hasValue (key value : Value)
  | isNull
  | hasPattern (patterns : List Value)
  | held
  | hold
  | run
  | runHolding
  | runWithin
  | runAnonymous

structure Script where
  action : Action
  later : Bool

abbrev Scripts := List (Nat × Script)

namespace Value

/-- The item at a place, which counts from the end if it is negative. -/
def itemAt {α : Type} (items : List α) (place : Int) : Except Fault α :=
  let index := if place < 0 then place + items.length else place
  match if index < 0 then none else items[index.toNat]? with
  | some item => .ok item
  | none => .error .noIndex

def item (container key : Value) : Except Fault Value :=
  let place? : Option Int := match key with
    | .int n => some n
    | .bool b => some (if b then 1 else 0)
    | _ => none
  match container.table?, container, place? with
  | some entries, _, _ =>
    if !key.hashable then .error .wrongType
    else match Table.find entries key with
      | some value => .ok value
      | none => .error .noKey
  | none, .list items, some place | none, .tuple items, some place => itemAt items place
  | none, .str text, some place =>
    (itemAt text.toList place).map fun char => .str (String.singleton char)
  | none, .bytes data, some place => (itemAt data place).map fun byte => .int byte.toNat
  | _, _, _ => .error .wrongType

end Value

namespace Action

def callBody (host : Host) (arguments : List Value) : Process Value :=
  match arguments with
  | _ :: function :: _ => host.apply function []
  | _ => .fail .noIndex

def perform (host : Host) (action : Action) (arguments : List Value) : Process Value :=
  let subject := arguments.getLast?.getD .null
  match action with
  | .give value => .done value
  | .raise message => .fail (.raised message)
  | .get key => if subject.truthy then host.get subject key else .done .null
  | .path keys => .ofExcept (keys.foldlM Value.item subject)
  | .hasValue key value =>
    if subject.isNull then .done (.bool false)
    else do return .bool ((← host.get subject key).equal value)
  | .isNull => .done (.bool subject.isNull)
  | .hasPattern patterns => do
    let some rule := arguments.head? | .fail .noIndex
    return .bool ((← .ofExcept (rule.attr "pattern")).memberOf patterns)
  | .held => Process.request .held
  | .hold => do
    Process.request (.hold subject)
    return .null
  | .run => callBody host arguments
  | .runHolding => do
    let some context := arguments.head? | .fail .noIndex
    Process.request (.hold context)
    callBody host arguments
  | .runWithin => within (arguments.head?.getD .null)
  | .runAnonymous => within (.context .null)
where
  within (context : Value) : Process Value := do
    if arguments.length < 2 then .fail .noIndex
    else Context.within context (do host.settle (← callBody host arguments))

def around {α : Type} (host : Host) (action : Action) (context : Value) (body : Process α) :
    Process (Value ⊕ α) :=
  match action with
  | .run => do return .inr (← body)
  | .runHolding => do
    Process.request (.hold context)
    return .inr (← body)
  | .runWithin => do return .inr (← Context.within context body)
  | .runAnonymous => do return .inr (← Context.within (.context .null) body)
  | _ => do return .inl (← action.perform host [context, .body])

end Action

namespace Scripts

variable {α : Type}

def script? (scripts : Scripts) : Value → Option (String × Script)
  | .callback id name => (scripts.lookup id).map (name, ·)
  | _ => none

def call (scripts : Scripts) (host : Host) (function : Value) (arguments : List Value) :
    Process Value :=
  match function, scripts.script? function with
  | .callback id _, some (name, script) => do
    Process.request (.note ⟨name, arguments⟩)
    -- Calls of one script are not told apart.
    if script.later then return .pending id function arguments
    else script.action.perform host arguments
  | _, _ => .fail .wrongType

def resume (scripts : Scripts) (host : Host) (function : Value) (arguments : List Value) :
    Process Value :=
  match scripts.script? function with
  | none => .fail .wrongType
  | some (_, script) => do
    Process.pause
    host.settle (← script.action.perform host arguments)

def runner (scripts : Scripts) (host : Host) (function context : Value) (body : Process α) :
    Process (Value ⊕ α) :=
  match scripts.script? function with
  | none => .fail .wrongType
  | some (name, script) => do
    Process.request (.note ⟨name, [context, .body]⟩)
    if script.later then Process.pause
    script.action.around host context body

def hostTo (scripts : Scripts) (yaml : Document.Stream → Except Fault Value) : Nat → Host
  | 0 => ⟨fun _ _ => .fail .tooDeep, fun _ _ => .fail .tooDeep, fun _ _ _ => .fail .tooDeep, yaml⟩
  | depth + 1 =>
    let inner := scripts.hostTo yaml depth
    ⟨scripts.call inner, scripts.resume inner, scripts.runner inner, yaml⟩

/-- The host whose functions follow scripts. What a script calls is named by itself or by the one
that called it, so no chain of calls is longer than twice their number, give or take its ends. -/
def host (scripts : Scripts) (yaml : Document.Stream → Except Fault Value) : Host :=
  scripts.hostTo yaml (2 * scripts.length + 3)

end Scripts

end Gatekeeper
