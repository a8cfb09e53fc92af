import Gatekeeper.Text.Blank
import Gatekeeper.Value.Access

/-! Which values are sessions: tables with a user and bounded fields of the right kinds. -/
namespace Gatekeeper.Session

def maxUserId : Nat := 255
def maxEmail : Nat := 320
def maxRole : Nat := 100
def maxRoles : Nat := 100
def maxPermission : Nat := 200
def maxPermissions : Nat := 500

def isText (limit : Nat) : Value → Bool
  | .str text => text.length ≤ limit
  | .torn letters => letters.length ≤ limit
  | _ => false

def isTexts (count limit : Nat) : Value → Bool
  | .list items | .tuple items => items.length ≤ count && items.all (isText limit)
  | _ => false

def optional (check : Value → Bool) (field : Option Value) : Bool :=
  match field with
  | none | some .null => true
  | some value => check value

def isUserId : Value → Bool
  | .str text => Text.hasInk text && text.length ≤ maxUserId
  | .torn letters => letters.any (!Text.Letter.isBlank ·) && letters.length ≤ maxUserId
  | _ => false

/-- The email may be missing but not null. -/
def isValidTable (entries : Table) : Bool :=
  (Table.field entries "user_id").any isUserId &&
    (Table.field entries "email").all (isText maxEmail) &&
    optional (isText maxRole) (Table.field entries "role") &&
    optional (isTexts maxRoles maxRole) (Table.field entries "roles") &&
    optional (isTexts maxPermissions maxPermission) (Table.field entries "permissions")

def isValid (value : Value) : Bool :=
  value.table?.any isValidTable

end Gatekeeper.Session
