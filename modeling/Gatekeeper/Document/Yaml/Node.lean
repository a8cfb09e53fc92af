import Gatekeeper.Document.Yaml.Kind

/-! The nodes of a YAML document. A node refers to others by their places in a list of all nodes, so
that several nodes, and a node itself, can refer to one node. -/
namespace Gatekeeper.Document.Yaml

open Text (Letter)

inductive Node where
  | scalar (kind : Kind) (text : List Letter)
  | list (kind : Kind) (items : List Nat)
  | table (kind : Kind) (entries : List (Nat × Nat))

namespace Node

instance : Inhabited Node := ⟨.scalar .null []⟩

def kind : Node → Kind
  | .scalar kind _ | .list kind _ | .table kind _ => kind

def withKind (kind : Kind) : Node → Node
  | .scalar _ text => .scalar kind text
  | .list _ items => .list kind items
  | .table _ entries => .table kind entries

def entries : Node → List (Nat × Nat)
  | .table _ entries => entries
  | _ => []

def withEntries (entries : List (Nat × Nat)) : Node → Node
  | .table kind _ => .table kind entries
  | node => node

def empty : Node := .scalar .null []

end Node

abbrev Nodes := Array Node

structure Graph where
  nodes : Nodes
  root : Nat

end Gatekeeper.Document.Yaml
