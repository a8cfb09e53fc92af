import Gatekeeper.Document.File
import Gatekeeper.Document.Yaml.Grammar
import Gatekeeper.Document.Yaml.Scalar
import Gatekeeper.Value.Scatter

/-! The values that the nodes of a document stand for. A node that several others refer to stands
for one object. Lists and tables are made empty and filled later, in the order in which they were
made, so an object can become a part of itself; the first fault on this way is the one that
counts. No statement about the library depends on how YAML is read; scenarios are run with the reader
made here. -/
namespace Gatekeeper.Document.Yaml

open Text (Letter)

inductive Part where
  | plain (value : Value)
  | object (place : Nat)

inductive Content where
  | list (items : List Part)
  | pairs (items : List (Part × Part))
  | set (items : List Part)
  | table (entries : List (Part × Part))

structure Site where
  nodes : Nodes
  made : Array (Option Part)
  contents : Array (Option Content)
  objects : Array Nat := #[]

abbrev Build := StateT Site (Except Fault)

namespace Build

def nodeAt (place : Nat) : Build Node := do
  return (← get).nodes.getD place .empty

def kindAt (place : Nat) : Build Kind := do
  return (← nodeAt place).kind

def entriesAt (place : Nat) : Build (List (Nat × Nat)) := do
  return (← nodeAt place).entries

def changeNode (place : Nat) (change : Node → Node) : Build Unit :=
  modify fun site => { site with nodes := site.nodes.modify place change }

/-- The text of a node. A table may have one under the key for its value. A text that is looked for
in more nodes than there are is nowhere. -/
def textAt (fuel place : Nat) : Build (List Letter) :=
  match fuel with
  | 0 => throw .tooDeep
  | fuel + 1 => do
    match ← nodeAt place with
    | .scalar _ text => return text
    | .list _ _ => throw .badYaml
    | .table _ entries =>
      match ← entries.findM? fun (key, _) => return (← kindAt key) = .value with
      | some (_, value) => textAt fuel value
      | none => throw .badYaml

/-- The value of a node that stands for a text. An undefined number is the one that the reader has
for all of them, unless its text has to be read as a number to find out. -/
def scalar (kind : Kind) (place : Nat) : Build Part := do
  let text ← textAt ((← get).nodes.size + 1) place
  if kind = .moment then
    if let .table _ _ ← nodeAt place then throw .wrongType
  match ← kind.read text with
  | .float x => return .plain (.float { x with id := if isNan text then 0 else place + 1 })
  | value => return .plain value

def make (place : Nat) : Build Part := do
  if let some part := ((← get).made.getD place none) then return part
  let part ← match ← kindAt place with
    | .list | .pairs | .set | .table =>
      modify fun site => { site with objects := site.objects.push place }
      pure (.object place)
    | .merge | .value | .unknown => throw .badYaml
    | kind => scalar kind place
  modify fun site => { site with made := site.made.setIfInBounds place (some part) }
  return part

def takeMerge (place : Nat) : Build (Option Nat) := do
  let entries ← entriesAt place
  let kinds ← entries.mapM fun (key, _) => kindAt key
  match kinds.findIdx? (· = .merge) with
  | none => return none
  | some index =>
    changeNode place (·.withEntries (entries.eraseIdx index))
    return (entries[index]?).map (·.2)

/-- Puts the entries that a table takes over in front of its own, after what it has taken over so
far. The first of several tables counts most. The key for a value is from now on a text. The fuel is
more than the number of entries that are left to be taken over anywhere. -/
def takeOver (fuel place : Nat) (taken : List (Nat × Nat)) : Build Unit :=
  match fuel with
  | 0 => throw .badYaml
  | fuel + 1 => do
    match ← takeMerge place with
    | none =>
      let entries ← entriesAt place
      for (key, _) in entries do
        if (← kindAt key) = .value then changeNode key (·.withKind .str)
      changeNode place (·.withEntries (taken ++ entries))
    | some source =>
      let found ← match ← nodeAt source with
        | .scalar _ _ => throw .badYaml
        | .table _ _ =>
          takeOver fuel source []
          entriesAt source
        | .list _ items =>
          let tables ← items.mapM fun item => do
            match ← nodeAt item with
            | .table _ _ =>
              takeOver fuel item []
              entriesAt item
            | _ => throw .badYaml
          pure tables.reverse.flatten
      takeOver fuel place (taken ++ found)

def put (key : Value) (value : Part) : List (Value × Part) → List (Value × Part)
  | [] => [(key, value)]
  | entry :: rest =>
    if key.same entry.1 then (entry.1, value) :: rest else entry :: put key value rest

def tableAt (place : Nat) : Build (List (Part × Part)) := do
  let .table _ _ ← nodeAt place | throw .badYaml
  let count := (← get).nodes.foldl (fun count node => count + node.entries.length) 0
  takeOver (count + 1) place []
  let entries ← (← entriesAt place).foldlM (fun entries (key, value) => do
    let .plain name ← make key | throw .badYaml
    return put name (← make value) entries) []
  return entries.map fun (name, value) => (Part.plain name, value)

def pairAt (place : Nat) : Build (Part × Part) := do
  match ← nodeAt place with
  | .table _ [(key, value)] => return (← make key, ← make value)
  | _ => throw .badYaml

def fill (place : Nat) : Build Unit := do
  let content ← match ← nodeAt place with
    | .list .list items => pure (Content.list (← items.mapM make))
    | .list .pairs items => pure (.pairs (← items.mapM pairAt))
    | .table .set _ => pure (.set ((← tableAt place).map (·.1)))
    | .table .table _ => pure (.table (← tableAt place))
    | _ => throw .badYaml
  modify fun site => { site with contents := site.contents.setIfInBounds place (some content) }

def fillFrom (fuel index : Nat) : Build Unit :=
  match fuel with
  | 0 => pure ()
  | fuel + 1 => do
    if let some place := (← get).objects[index]? then
      fill place
      fillFrom fuel (index + 1)

end Build

def Part.value? (known : Nat → Option Value) : Part → Option Value
  | .plain value => some value
  | .object place => known place

def pairs? (known : Nat → Option Value) (entries : List (Part × Part)) : Option Table :=
  entries.mapM fun (key, value) => do return (← key.value? known, ← value.value? known)

def Content.value? (known : Nat → Option Value) : Content → Option Value
  | .list items => (items.mapM (Part.value? known)).map .list
  | .pairs items => (pairs? known items).map fun items =>
      .list (items.map fun (first, second) => .tuple [first, second])
  | .set items => (items.mapM (Part.value? known)).map fun items => .set (Scatter.order items)
  | .table entries => (pairs? known entries).map .table

namespace Site

def valueAt (site : Site) (known : Nat → Option Value) (place : Nat) : Option Value :=
  (site.contents.getD place none).bind (Content.value? known)

/-- The objects that hold neither themselves nor others of that kind. Objects that were made later
tend to be parts of those made before, so the last one comes first, and all of them have another
turn as long as something new is found. -/
def settle (site : Site) (fuel : Nat) (settled : Array (Option Value)) : Array (Option Value) :=
  match fuel with
  | 0 => settled
  | fuel + 1 =>
    let (found, next) := site.objects.foldr (fun place (found, settled) =>
      if (settled.getD place none).isSome then (found, settled)
      else
        match site.valueAt (settled.getD · none) place with
        | some value => (true, settled.setIfInBounds place (some value))
        | none => (found, settled)) (false, settled)
    if found then site.settle fuel next else next

/-- The value of the object that was made first. If it holds itself, or some object that does, these
become cells. -/
def first (site : Site) : Value :=
  let settled := site.settle site.objects.size (site.contents.map fun _ => none)
  let loose := site.objects.toList.filter fun place => (settled.getD place none).isNone
  let known (place : Nat) : Option Value :=
    settled.getD place none <|> (loose.idxOf? place).map (.knot [])
  match site.objects[0]? with
  | none => .null
  | some place =>
    match settled.getD place none with
    | some value => value
    | none => .knot (loose.map fun place => (site.valueAt known place).getD .null) 0

end Site

def Graph.value (graph : Graph) : Except Fault Value := do
  let count := graph.nodes.size
  let site : Site := ⟨graph.nodes, Array.replicate count none, Array.replicate count none, #[]⟩
  let (part, site) ← (do
    let part ← Build.make graph.root
    Build.fillFrom count 0
    return part : Build Part).run site
  match part with
  | .plain value => return value
  | .object _ => return site.first

/-- Reads a text that is one document or none. A text without a document is null. -/
def read (stream : Stream) : Except Fault Value := do
  match ← graph? (.make stream.chars stream.fault) with
  | some graph => graph.value
  | none => return .null

end Gatekeeper.Document.Yaml
