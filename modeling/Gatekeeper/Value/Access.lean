import Gatekeeper.Fault

/-! Reading values whose kind is not known. What a value does not support is a fault. -/
namespace Gatekeeper.Value

def table? (value : Value) : Option Table :=
  match value.opened with
  | .table entries | .view entries | .ownRequest entries => some entries
  | .scopedRequest session => some [(.str "session", session)]
  | _ => none

def writable? (value : Value) : Option Table :=
  match value.opened with
  | .table entries | .ownRequest entries => some entries
  | _ => none

def get (value key : Value) : Except Fault Value :=
  match value.table? with
  | none => .error .noAttribute
  | some entries =>
    if key.hashable then .ok ((Table.find entries key).getD .null) else .error .wrongType

def attr? (name : String) : Value → Option Value
  | .object _ attributes => attributes.lookup name
  | .context session => if name = "session" then some session else none
  | .hooks getRole getPermissions check =>
    match name with
    | "get_role" => some getRole
    | "get_permissions" => some getPermissions
    | "check" => some check
    | _ => none
  | .rule kind pattern requirement target =>
    if name = "pattern" then some pattern
    else if name = "redirect_to" then some target
    else if name = kind.field then some requirement
    else none
  | _ => none

def attr (name : String) (value : Value) : Except Fault Value :=
  match value.attr? name with
  | some found => .ok found
  | none => .error .noAttribute

def items (value : Value) : Except Fault (List Value) :=
  match value.opened with
  | .list items | .tuple items | .set items => .ok items
  | .str text => .ok (text.toList.map fun char => .str (String.singleton char))
  | .torn letters => .ok (letters.map fun letter => ofLetters [letter])
  | .bytes data => .ok (data.map fun byte => .int byte.toNat)
  | .table entries | .view entries | .ownRequest entries => .ok (entries.map (·.1))
  | _ => .error .wrongType

def memberOf (value : Value) (items : List Value) : Bool :=
  items.any value.same

def occursIn {α : Type} [BEq α] (part : List α) : List α → Bool
  | [] => part.isEmpty
  | item :: rest => part.isPrefixOf (item :: rest) || occursIn part rest

def hasByte (data : List UInt8) (code : Int) : Except Fault Bool :=
  if 0 ≤ code ∧ code < 256 then .ok (data.any fun byte => (byte.toNat : Int) == code)
  else .error (.badValue "byte must be in range(0, 256)")

/-- Whether a container has a value: a list or set has items, a table keys, and a text or bytes
parts. -/
def contains (container value : Value) : Except Fault Bool :=
  match container.opened with
  | .list items | .tuple items => .ok (value.memberOf items)
  | .set items => if value.hashable then .ok (value.memberOf items) else .error .wrongType
  | .table entries | .view entries | .ownRequest entries =>
    if value.hashable then .ok (Table.find entries value).isSome else .error .wrongType
  | .str text =>
    match value with
    | .str part => .ok (occursIn part.toList text.toList)
    | .torn _ => .ok false
    | _ => .error .wrongType
  | .torn letters =>
    match value.letters? with
    | some part => .ok (occursIn part letters)
    | none => .error .wrongType
  | .bytes data =>
    match value with
    | .bytes part => .ok (occursIn part data)
    | .int code => hasByte data code
    | .bool b => hasByte data (if b then 1 else 0)
    | _ => .error .wrongType
  | _ => .error .wrongType

end Gatekeeper.Value
