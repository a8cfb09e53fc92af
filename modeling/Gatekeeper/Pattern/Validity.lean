import Gatekeeper.Value.Basic

/-! Which patterns a configuration may hold. Wildcards are few and stay on segment boundaries. -/
namespace Gatekeeper.Pattern

def maxLength : Nat := 1000
def maxRun : Nat := 3
def maxGroups : Nat := 20

def hasLongRun (before : Nat) : List Char → Bool
  | [] => false
  | char :: rest =>
    if char = '*' then maxRun ≤ before || hasLongRun (before + 1) rest else hasLongRun 0 rest

def onBoundaries : List Char → Bool
  | [] => true
  | [_] => true
  | char :: after :: rest =>
    !(char == '*' && after != '*' && after != '/') && onBoundaries (after :: rest)

def isPlain (char : Char) : Bool :=
  char != '/' && char != '*'

/-- Counts groups from the left. A group is a run of asterisks with all of its segment before it
that is free of asterisks; a character that begins no group is passed over. -/
def groups : List Char → Nat
  | [] => 0
  | char :: rest =>
    match found : (char :: rest).dropWhile isPlain with
    | '*' :: after => groups (after.dropWhile (· == '*')) + 1
    | _ => groups rest
termination_by chars => chars.length
decreasing_by
  · have inner := (List.dropWhile_suffix (l := after) (· == '*')).length_le
    have outer := (List.dropWhile_suffix (l := char :: rest) isPlain).length_le
    rw [found] at outer
    simp only [List.length_cons] at outer ⊢
    omega
  · simp

def isValidText (text : String) : Bool :=
  let chars := text.toList
  !chars.isEmpty && chars.length ≤ maxLength && chars.head? == some '/' && !hasLongRun 0 chars &&
    onBoundaries chars && groups chars ≤ maxGroups

def isValid : Value → Bool
  | .str text => isValidText text
  | .torn letters => isValidText (Text.outline letters)
  | _ => false

end Gatekeeper.Pattern
