import Gatekeeper.Value.Basic

/-! Where a denied request may be sent: only to a path on the same site, also by the reading of a
browser, which takes a backslash for a slash and drops tabs and line breaks. -/
namespace Gatekeeper.Redirect

def maxLength : Nat := 500

/-- A character that a browser would rewrite or drop. -/
def isUnsafe (char : Char) : Bool :=
  char == '\\' || char.toNat ≤ 0x1F || char.toNat == 0x7F

def hasScheme : List Char → Bool
  | [] => false
  | char :: rest =>
    let after := rest.dropWhile fun c => c.isAlphanum || c == '+' || c == '.' || c == '-'
    char.isAlpha && after.head? == some ':'

def isValidText (text : String) : Bool :=
  let chars := text.toList
  !chars.isEmpty && chars.length ≤ maxLength && chars.head? == some '/' &&
    chars.tail.head? != some '/' && !chars.any isUnsafe && !hasScheme chars

def isValid : Value → Bool
  | .str text => isValidText text
  | .torn letters => isValidText (Text.outline letters)
  | _ => false

end Gatekeeper.Redirect
