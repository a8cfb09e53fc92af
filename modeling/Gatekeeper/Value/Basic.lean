import Gatekeeper.Number.Double
import Gatekeeper.Number.Moment
import Gatekeeper.Text.Letter

/-! What a host application hands over. Sessions, configurations and stores arrive untyped, and the
library checks them; so one type holds every kind of value, with tables in order of insertion. A
value that holds itself is a place in a list of cells that refer to one another. -/
namespace Gatekeeper

open Number
open Text (Letter)

inductive RuleKind where
  | role
  | roles
  | permission
  | permissions
  | allow
  | unrestricted
deriving DecidableEq, Repr

inductive Value where
  | null
  | bool (b : Bool)
  | int (n : Int)
  | float (x : Double)
  | str (text : String)
  /-- A text with halves of characters in it. -/
  | torn (letters : List Letter)
  | bytes (data : List UInt8)
  | moment (time : Moment)
  | list (items : List Value)
  | tuple (items : List Value)
  /-- Values without order and repetition, in the order in which they are shown. -/
  | set (items : List Value)
  | table (entries : List (Value × Value))
  | view (entries : List (Value × Value))
  /-- An object of the host with named attributes; `id` tells two such objects apart. -/
  | object (id : Nat) (attributes : List (String × Value))
  | callback (id : Nat) (name : String)
  | rule (kind : RuleKind) (pattern requirement redirectTo : Value)
  | context (session : Value)
  | hooks (getRole getPermissions check : Value)
  | defaultRole
  | defaultPermissions
  /-- What a context runner is given to run. -/
  | body
  /-- A call whose result has not been awaited; `id` tells two such calls apart. -/
  | pending (id : Nat) (function : Value) (arguments : List Value)
  | ownRequest (entries : List (Value × Value))
  | scopedRequest (session : Value)
  /-- A list or table that holds itself, as one of several cells. Inside the cells, `knot [] place`
  stands for the cell at a place. -/
  | knot (cells : List Value) (place : Nat)

abbrev Table := List (Value × Value)

namespace Value

instance : Inhabited Value := ⟨.null⟩

def isNull : Value → Bool
  | .null => true
  | _ => false

@[simp] theorem isNull_iff {value : Value} : value.isNull = true ↔ value = .null := by
  cases value <;> simp [isNull]

def ofLetters (letters : List Letter) : Value :=
  match Text.textOf? letters with
  | some text => .str text
  | none => .torn letters

def letters? : Value → Option (List Letter)
  | .str text => some (Text.lettersOf text)
  | .torn letters => some letters
  | _ => none

def outline? : Value → Option String
  | .str text => some text
  | .torn letters => some (Text.outline letters)
  | _ => none

mutual

def tied (cells : List Value) : Value → Value
  | .knot [] place => .knot cells place
  | .list items => .list (tiedAll cells items)
  | .tuple items => .tuple (tiedAll cells items)
  | .table entries => .table (tiedEntries cells entries)
  | value => value

def tiedAll (cells : List Value) : List Value → List Value
  | [] => []
  | item :: rest => tied cells item :: tiedAll cells rest

def tiedEntries (cells : List Value) : List (Value × Value) → List (Value × Value)
  | [] => []
  | (key, value) :: rest => (key, tied cells value) :: tiedEntries cells rest

end

def opened : Value → Value
  | .knot cells place => ((cells[place]?).map (tied cells)).getD .null
  | value => value

mutual

def isFinite : Value → Bool
  | .knot _ _ => false
  | .list items | .tuple items | .set items => areFinite items
  | .table entries | .view entries => entriesFinite entries
  | _ => true

def areFinite : List Value → Bool
  | [] => true
  | item :: rest => isFinite item && areFinite rest

def entriesFinite : List (Value × Value) → Bool
  | [] => true
  | (key, value) :: rest => isFinite key && isFinite value && entriesFinite rest

end

def truthy : Value → Bool
  | .null => false
  | .bool b => b
  | .int n => n != 0
  | .float x => !x.quantity.isZero
  | .str text => !text.isEmpty
  | .bytes data => !data.isEmpty
  | .list items | .tuple items | .set items => !items.isEmpty
  | .table entries | .view entries => !entries.isEmpty
  | _ => true

def orElse (value fallback : Value) : Value :=
  if value.truthy then value else fallback

def quantity? : Value → Option Quantity
  | .bool b => some (Quantity.ofInt (if b then 1 else 0))
  | .int n => some (Quantity.ofInt n)
  | .float x => some x.quantity
  | _ => none

mutual

/-- Whether two values are the same one or equal. Numbers are compared by size, tables without
regard to order or to whether they can be written to, and what a host made by identity; a value that
holds itself is the same as itself alone. -/
def same : Value → Value → Bool
  | .null, .null => true
  | .str a, .str b => a == b
  | .bytes a, .bytes b => a == b
  | .torn a, .torn b => a == b
  | .moment a, .moment b => a.same b
  | .list as, .list bs => sameList as bs
  | .tuple as, .tuple bs => sameList as bs
  | .set as, .set bs => as.length == bs.length && among as bs
  | .table as, .table bs => as.length == bs.length && within as bs
  | .table as, .view bs => as.length == bs.length && within as bs
  | .view as, .table bs => as.length == bs.length && within as bs
  | .view as, .view bs => as.length == bs.length && within as bs
  | .object a _, .object b _ => a == b
  | .callback a _, .callback b _ => a == b
  | .rule kind pattern requirement target, .rule kind' pattern' requirement' target' =>
    kind == kind' && same pattern pattern' && same requirement requirement' && same target target'
  | .context a, .context b => same a b
  | .hooks a b c, .hooks a' b' c' => same a a' && same b b' && same c c'
  | .defaultRole, .defaultRole => true
  | .defaultPermissions, .defaultPermissions => true
  | .body, .body => true
  | .pending a _ _, .pending b _ _ => a == b
  | .ownRequest as, .ownRequest bs => as.length == bs.length && within as bs
  | .scopedRequest a, .scopedRequest b => same a b
  | .knot as a, .knot bs b => a == b && sameList as bs
  | a, b =>
    match a.quantity?, b.quantity? with
    | some p, some q => p.same q
    | _, _ => false

def sameList : List Value → List Value → Bool
  | [], [] => true
  | a :: as, b :: bs => same a b && sameList as bs
  | _, _ => false

def among : List Value → List Value → Bool
  | [], _ => true
  | item :: rest, others => others.any (fun other => same item other) && among rest others

def within : List (Value × Value) → List (Value × Value) → Bool
  | [], _ => true
  | entry :: rest, others => found entry others && within rest others

def found : Value × Value → List (Value × Value) → Bool
  | (key, value), others => others.any fun other => same key other.1 && same value other.2

end

def isUndefined (value : Value) : Bool :=
  value.quantity?.any Quantity.isUndefined

/-- Equality. An undefined number equals nothing, not even itself. The items of lists, the keys of
tables and the like are compared by `same`. -/
def equal (a b : Value) : Bool :=
  a.same b && !a.isUndefined

mutual

def hashable : Value → Bool
  | .list _ | .set _ | .table _ | .view _ | .ownRequest _ | .scopedRequest _ | .knot _ _ => false
  | .tuple items => hashableAll items
  | .rule _ pattern requirement target =>
    hashable pattern && hashable requirement && hashable target
  | .context session => hashable session
  | .hooks a b c => hashable a && hashable b && hashable c
  | _ => true

def hashableAll : List Value → Bool
  | [] => true
  | item :: rest => hashable item && hashableAll rest

end

end Value

def Table.find (entries : Table) (key : Value) : Option Value :=
  (entries.find? fun entry => key.same entry.1).map (·.2)

def Table.field (entries : Table) (name : String) : Option Value :=
  Table.find entries (.str name)

/-- A key that is present keeps its place; a new one goes to the end. -/
def Table.put (key value : Value) : Table → Table
  | [] => [(key, value)]
  | entry :: rest =>
    if key.same entry.1 then (entry.1, value) :: rest else entry :: Table.put key value rest

def Table.remove (key : Value) (entries : Table) : Table :=
  entries.filter fun entry => !key.same entry.1

def Table.merge (entries changes : Table) : Table :=
  changes.foldl (fun merged change => Table.put change.1 change.2 merged) entries

namespace RuleKind

def field : RuleKind → String
  | .role => "role"
  | .roles => "roles"
  | .permission => "permission"
  | .permissions => "permissions"
  | .allow => "allow"
  | .unrestricted => "open"

def all : List RuleKind :=
  [.role, .roles, .permission, .permissions, .allow]

theorem field_injective {a b : RuleKind} (h : a.field = b.field) : a = b := by
  cases a <;> cases b <;> first | rfl | exact absurd h (by decide)

end RuleKind

end Gatekeeper
