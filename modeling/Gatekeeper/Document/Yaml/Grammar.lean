import Gatekeeper.Document.Yaml.Node
import Gatekeeper.Document.Yaml.Token

/-! Documents from tokens. Every node may carry a name and a tag; what is left out is null. A name
can be referred to as soon as its node has begun. A text holds at most one document. -/
namespace Gatekeeper.Document.Yaml

open Text (Letter)

structure Reading where
  tokens : List Token
  handles : List (String × String) := []
  nodes : Nodes := #[]
  names : List (String × Nat) := []

abbrev Parse := StateT Reading (Except Fault)

/-- Where a node stands. A block may begin only outside of brackets, and the items of a list that is
the value of a key need not be indented. -/
inductive Spot where
  | flow
  | block
  | underKey
deriving DecidableEq

structure Mark where
  anchor : Option String
  tag : Option String

namespace Mark

def kindOr (mark : Mark) (kind : Kind) : Kind :=
  match mark.tag with
  | none | some "!" => kind
  | some tag => Kind.ofTag tag

def scalar (mark : Mark) (plain : Bool) (text : List Letter) : Node :=
  let bare := (plain && mark.tag.isNone) || mark.tag = some "!"
  .scalar (mark.kindOr (if bare then Kind.ofLetters text else .str)) text

def alone? (mark : Mark) : Option Node :=
  if mark.anchor.isSome || mark.tag.isSome then some (mark.scalar mark.tag.isNone []) else none

end Mark

namespace Parse

def peek : Parse (Option Token) := do
  match (← get).tokens.head? with
  | some (.broken fault) => throw fault
  | token => return token

def skip : Parse Unit :=
  modify fun reading => { reading with tokens := reading.tokens.drop 1 }

def skipAll (kind : Token → Bool) : Parse Unit :=
  modify fun reading => { reading with tokens := reading.tokens.dropWhile kind }

def fullTag (tag : Tag) : Parse String := do
  match tag.handle with
  | none => return tag.suffix
  | some handle =>
    match (← get).handles.lookup handle with
    | some start => return start ++ tag.suffix
    | none => throw .badYaml

def mark : Parse Mark := do
  match ← peek with
  | some (.anchor name) =>
    skip
    match ← peek with
    | some (.tag tag) =>
      skip
      return ⟨some name, some (← fullTag tag)⟩
    | _ => return ⟨some name, none⟩
  | some (.tag tag) =>
    skip
    match ← peek with
    | some (.anchor name) =>
      skip
      return ⟨some name, some (← fullTag tag)⟩
    | _ => return ⟨none, some (← fullTag tag)⟩
  | _ => return ⟨none, none⟩

def add (node : Node) : Parse Nat :=
  modifyGet fun reading =>
    (reading.nodes.size, { reading with nodes := reading.nodes.push node })

def bind (mark : Mark) (node : Node) : Parse Nat := do
  let place ← add node
  if let some name := mark.anchor then
    if ((← get).names.lookup name).isSome then throw .badYaml
    modify fun reading => { reading with names := (name, place) :: reading.names }
  return place

def complete (place : Nat) (node : Node) : Parse Nat := do
  modify fun reading => { reading with nodes := reading.nodes.setIfInBounds place node }
  return place

def reference (name : String) : Parse Nat := do
  match (← get).names.lookup name with
  | some place => return place
  | none => throw .badYaml

end Parse

open Parse

def endsItem (spot : Spot) : Option Token → Bool
  | some .dash | some .blockEnd => true
  | some .key | some .value => spot = .underKey
  | _ => false

def endsBlockEntry : Option Token → Bool
  | some .key | some .value | some .blockEnd => true
  | _ => false

def endsFlowEntry (isKey : Bool) : Option Token → Bool
  | some .value => isKey
  | some .comma | some .closeList | some .closeTable => true
  | _ => false

mutual

/-- A node, which may hold nodes to a given depth. The fuel bounds the number of steps inside each
other. -/
def nodeIn (fuel depth : Nat) (spot : Spot) : Parse Nat :=
  match fuel, depth with
  | 0, _ => throw .badYaml
  | _, 0 => throw .tooDeep
  | fuel + 1, depth + 1 => do
    if let some (.reference name) ← peek then
      skip
      return ← reference name
    let mark ← mark
    match ← peek, spot with
    | some (.scalar plain text), _ =>
      skip
      bind mark (mark.scalar plain text)
    | some .openList, _ =>
      skip
      let place ← bind mark (.list (mark.kindOr .list) [])
      complete place (.list (mark.kindOr .list) (← flowItems fuel depth true))
    | some .openTable, _ =>
      skip
      let place ← bind mark (.table (mark.kindOr .table) [])
      complete place (.table (mark.kindOr .table) (← flowEntries fuel depth true))
    | some .dash, .underKey =>
      let place ← bind mark (.list (mark.kindOr .list) [])
      complete place (.list (mark.kindOr .list) (← blockItems fuel depth .underKey))
    | some .blockList, .block | some .blockList, .underKey =>
      skip
      let place ← bind mark (.list (mark.kindOr .list) [])
      complete place (.list (mark.kindOr .list) (← blockItems fuel depth .block))
    | some .blockTable, .block | some .blockTable, .underKey =>
      skip
      let place ← bind mark (.table (mark.kindOr .table) [])
      complete place (.table (mark.kindOr .table) (← blockEntries fuel depth))
    | _, _ =>
      match mark.alone? with
      | some node => bind mark node
      | none => throw .badYaml

/-- The items of a block list. A list that is not indented ends before the next key. -/
def blockItems (fuel depth : Nat) (spot : Spot) : Parse (List Nat) :=
  match fuel with
  | 0 => throw .badYaml
  | fuel + 1 => do
    match ← peek, spot with
    | some .dash, _ =>
      skip
      let item ← if endsItem spot (← peek) then add .empty else nodeIn fuel depth .block
      return item :: (← blockItems fuel depth spot)
    | _, .underKey => return []
    | some .blockEnd, _ =>
      skip
      return []
    | _, _ => throw .badYaml

def blockEntries (fuel depth : Nat) : Parse (List (Nat × Nat)) :=
  match fuel with
  | 0 => throw .badYaml
  | fuel + 1 => do
    match ← peek with
    | some .key =>
      skip
      let key ← if endsBlockEntry (← peek) then add .empty else nodeIn fuel depth .underKey
      let value ← blockValue fuel depth
      return (key, value) :: (← blockEntries fuel depth)
    | some .blockEnd =>
      skip
      return []
    | _ => throw .badYaml

def blockValue (fuel depth : Nat) : Parse Nat :=
  match fuel with
  | 0 => throw .badYaml
  | fuel + 1 => do
    match ← peek with
    | some .value =>
      skip
      if endsBlockEntry (← peek) then add .empty else nodeIn fuel depth .underKey
    | _ => add .empty

def flowEntry (fuel depth : Nat) : Parse (Nat × Nat) :=
  match fuel with
  | 0 => throw .badYaml
  | fuel + 1 => do
    let key ← if endsFlowEntry true (← peek) then add .empty else nodeIn fuel depth .flow
    match ← peek with
    | some .value =>
      skip
      return (key, ← if endsFlowEntry false (← peek) then add .empty else nodeIn fuel depth .flow)
    | _ => return (key, ← add .empty)

def flowItems (fuel depth : Nat) (first : Bool) : Parse (List Nat) :=
  match fuel with
  | 0 => throw .badYaml
  | fuel + 1 => do
    match ← peek, first with
    | some .closeList, _ | _, true => pure ()
    | some .comma, false => skip
    | _, _ => throw .badYaml
    match ← peek with
    | some .closeList =>
      skip
      return []
    | some .key =>
      skip
      let place ← add (.table .table [])
      let place ← complete place (.table .table [← flowEntry fuel (depth - 1)])
      return place :: (← flowItems fuel depth false)
    | _ =>
      let item ← nodeIn fuel depth .flow
      return item :: (← flowItems fuel depth false)

/-- The entries of a table in brackets. A node alone is a key without a value. -/
def flowEntries (fuel depth : Nat) (first : Bool) : Parse (List (Nat × Nat)) :=
  match fuel with
  | 0 => throw .badYaml
  | fuel + 1 => do
    match ← peek, first with
    | some .closeTable, _ | _, true => pure ()
    | some .comma, false => skip
    | _, _ => throw .badYaml
    match ← peek with
    | some .closeTable =>
      skip
      return []
    | some .key =>
      skip
      let entry ← flowEntry fuel depth
      return entry :: (← flowEntries fuel depth false)
    | _ =>
      let key ← nodeIn fuel depth .flow
      let value ← add .empty
      return (key, value) :: (← flowEntries fuel depth false)

end

def maxDepth : Nat := 480

/-- A node. Every token is looked at in at most four steps inside each other. -/
def node : Parse Nat := do
  nodeIn (5 * (← get).tokens.length + 5) maxDepth .block

def commonHandles : List (String × String) :=
  [("!", "!"), ("!!", "tag:yaml.org,2002:")]

def heading (fuel : Nat) (versioned : Bool) : Parse Unit :=
  match fuel with
  | 0 => throw .badYaml
  | fuel + 1 => do
    match ← peek with
    | some (.directive (.version major)) =>
      skip
      if versioned || major != 1 then throw .badYaml
      heading fuel true
    | some (.directive (.handle name start)) =>
      skip
      if ((← get).handles.lookup name).isSome then throw .badYaml
      modify fun reading => { reading with handles := (name, start) :: reading.handles }
      heading fuel versioned
    | some (.directive .other) =>
      skip
      heading fuel versioned
    | _ => modify fun reading => { reading with handles := reading.handles ++ commonHandles }

def opening : Parse Unit := do
  modify fun reading => { reading with handles := [] }
  heading ((← get).tokens.length + 1) false
  match ← peek with
  | some .documentStart => skip
  | _ => throw .badYaml

def content : Parse Nat := do
  match ← peek with
  | none | some (.directive _) | some .documentStart | some .documentEnd => add .empty
  | _ => node

def isDocumentEnd : Token → Bool
  | .documentEnd => true
  | _ => false

def ending : Parse Unit := do
  skipAll isDocumentEnd
  if (← peek).isSome then
    opening
    throw .badYaml

def document : Parse (Option Nat) := do
  match ← peek with
  | none => return none
  | some (.directive _) | some .documentStart =>
    opening
    let root ← content
    ending
    return some root
  | _ =>
    modify fun reading => { reading with handles := commonHandles }
    let root ← node
    ending
    return some root

def graph? (source : Source) : Except Fault (Option Graph) := do
  let (root, reading) ← document.run { tokens := tokens source }
  return root.map fun root => ⟨reading.nodes, root⟩

end Gatekeeper.Document.Yaml
