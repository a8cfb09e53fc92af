import Gatekeeper.Text.Quoted
import Gatekeeper.Value.Basic

/-! How values are named and shown in messages. A text stands for itself where it is the whole value
and is quoted inside another one. -/
namespace Gatekeeper

def RuleKind.title : RuleKind → String
  | .role => "RoleRule"
  | .roles => "RolesRule"
  | .permission => "PermissionRule"
  | .permissions => "PermissionsRule"
  | .allow => "CustomRule"
  | .unrestricted => "OpenRule"

namespace Value

def openKindName : Value → String
  | .null => "NoneType"
  | .bool _ => "bool"
  | .int _ => "int"
  | .float _ => "float"
  | .str _ | .torn _ => "str"
  | .bytes _ => "bytes"
  | .moment time => if time.clock.isSome then "datetime" else "date"
  | .list _ | .knot _ _ => "list"
  | .tuple _ => "tuple"
  | .set _ => "set"
  | .table _ => "dict"
  | .view _ => "mappingproxy"
  | .object _ _ => "Obj"
  | .callback _ _ => "Fn"
  | .rule kind _ _ _ => kind.title
  | .context _ => "SessionContext"
  | .hooks _ _ _ => "AccessHooks"
  | .defaultRole | .defaultPermissions | .body => "function"
  | .pending _ _ _ => "coroutine"
  | .ownRequest _ | .scopedRequest _ => "Request"

def kindName (value : Value) : String :=
  value.opened.openKindName

def maxDigits : Nat := 4300

inductive Unwritable where
  | longInteger
  | tooDeep
deriving DecidableEq, Repr

/-- How values are written: what is remembered of the way into them, and what becomes of integers. -/
structure Pen (m : Type → Type) where
  Way : Type
  start : Way
  into : Way → Value → m Way
  int : Int → m String

def Pen.free : Pen Id where
  Way := Unit
  start := ()
  into _ _ := ()
  int n := toString n

/-- The stack of an interpreter: how much of it is left, and how much a value takes of it while its
parts are written. -/
structure Stack where
  left : Nat
  takes : Value → Nat

def Pen.limited (stack : Stack) : Pen (Except Unwritable) where
  Way := Nat
  start := stack.left
  into left value :=
    if stack.takes value ≤ left then .ok (left - stack.takes value) else .error .tooDeep
  int n :=
    if (Nat.toDigits 10 n.natAbs).length ≤ maxDigits then .ok (toString n) else .error .longInteger

section Writing

variable {m : Type → Type} [Monad m] {Way : Type}

structure Weft (m : Type → Type) (Way : Type) where
  write : (Way → Nat → m String) → Way → m String
  again : Way → m String

/-- Writes a cell. A cell that is being written already is not written again inside itself; so the
fuel, one more than the number of cells, suffices. -/
def weave (wefts : List (Weft m Way)) : Nat → List Nat → Way → Nat → m String
  | 0, _, _, _ => pure ""
  | fuel + 1, begun, way, place =>
    match wefts[place]? with
    | none => pure ""
    | some weft =>
      if begun.contains place then weft.again way
      else weft.write (weave wefts fuel (place :: begun)) way

def again : Value → String
  | .table _ => "\x7b...\x7d"
  | _ => "[...]"

variable (pen : Pen m)

mutual

def shownIn (cell : pen.Way → Nat → m String) (way : pen.Way) (value : Value) : m String := do
  let inside ← pen.into way value
  match value with
  | .null => return "None"
  | .bool b => return if b then "True" else "False"
  | .int n => pen.int n
  | .float x => return x.text
  | .str text => return Text.quoted text
  | .torn letters => return String.ofList (Text.quotedLetters letters)
  | .bytes data => return Text.quotedBytes data
  | .moment time => return time.shown
  | .list items => return "[" ++ ", ".intercalate (← shownAll cell inside items) ++ "]"
  | .tuple [item] => return "(" ++ (← shownIn cell inside item) ++ ",)"
  | .tuple items => return "(" ++ ", ".intercalate (← shownAll cell inside items) ++ ")"
  | .set [] => return "set()"
  | .set items => return "\x7b" ++ ", ".intercalate (← shownAll cell inside items) ++ "\x7d"
  | .table entries =>
    return "\x7b" ++ ", ".intercalate (← shownEntries cell inside entries) ++ "\x7d"
  | .view entries =>
    return "mappingproxy(\x7b" ++ ", ".intercalate (← shownEntries cell inside entries) ++ "\x7d)"
  | .object _ _ => return "<obj>"
  | .callback _ name => return "<fn " ++ name ++ ">"
  | .rule kind pattern requirement target =>
    return kind.title ++ "(pattern=" ++ (← shownIn cell inside pattern) ++ ", " ++ kind.field ++
      "=" ++ (← shownIn cell inside requirement) ++ ", redirect_to=" ++
      (← shownIn cell inside target) ++ ")"
  | .context session => return "SessionContext(session=" ++ (← shownIn cell inside session) ++ ")"
  | .hooks getRole getPermissions check =>
    return "AccessHooks(get_role=" ++ (← shownIn cell inside getRole) ++ ", get_permissions=" ++
      (← shownIn cell inside getPermissions) ++ ", check=" ++ (← shownIn cell inside check) ++ ")"
  | .defaultRole => return "<function default_get_role>"
  | .defaultPermissions => return "<function default_get_permissions>"
  | .body => return "<function>"
  | .pending _ _ _ => return "<coroutine>"
  | .ownRequest _ | .scopedRequest _ => return "<Request>"
  | .knot [] place => cell inside place
  | .knot cells place => weave (wefts cells) (cells.length + 1) [] inside place

def shownAll (cell : pen.Way → Nat → m String) (way : pen.Way) : List Value → m (List String)
  | [] => return []
  | item :: rest => return (← shownIn cell way item) :: (← shownAll cell way rest)

def shownEntries (cell : pen.Way → Nat → m String) (way : pen.Way) :
    List (Value × Value) → m (List String)
  | [] => return []
  | (key, value) :: rest => do
    let entry := (← shownIn cell way key) ++ ": " ++ (← shownIn cell way value)
    return entry :: (← shownEntries cell way rest)

def wefts : List Value → List (Weft m pen.Way)
  | [] => []
  | item :: rest =>
    ⟨fun cell way => shownIn cell way item, fun way => do
      let _ ← pen.into way item
      return again item⟩ :: wefts rest

end

def shownBy (value : Value) : m String :=
  value.shownIn pen (fun _ _ => pure "") pen.start

/-- A value on its own. A table is written the same way whether or not it can be written to. -/
def textBy (pen : Pen m) : Value → m String
  | .str text => return text
  | .torn letters => return Text.outline letters
  | .view entries => (Value.table entries).shownBy pen
  | .moment time => return time.text
  | value => value.shownBy pen

end Writing

def text (value : Value) : String :=
  Id.run (value.textBy .free)

end Value

end Gatekeeper
