import Gatekeeper.Value.Basic

/-! The order in which a set shows its items. Numbers lie scattered in a table by their residues and
are shown from the first place to the last; other items are shown in the order in which they came.
-/
namespace Gatekeeper.Scatter

open Number

def modulus : Nat := Nat.pow 2 61 - 1

/-- The residue of a number, which does not depend on its kind. It is never `-1`. The powers of two
repeat after sixty-one steps. -/
def residue? : Quantity → Option Int
  | .finite mantissa exponent =>
    let size : Int := mantissa.natAbs * Nat.pow 2 (exponent % 61).toNat % modulus
    let signed := if mantissa < 0 then -size else size
    some (if signed = -1 then -2 else signed)
  | .infinite negative => some (if negative then -314159 else 314159)
  | .undefined _ => none

def word (residue : Int) : Nat :=
  (residue % Nat.pow 2 64).toNat

def tableSize (count : Nat) : Nat :=
  if count < 5 then 8 else Nat.pow 2 ((2 * count).log2 + 1)

/-- The places that are tried for a word: ten in a row if the table goes on so far, and then others
on which what is left of the word has less and less influence. -/
def trail (size : Nat) : Nat → Nat → Nat → List Nat
  | 0, _, _ => []
  | fuel + 1, place, left =>
    (List.range (if place + 10 ≤ size then 10 else 1)).map (place + ·) ++
      trail size fuel ((5 * place + 1 + left / 32) % size) (left / 32)

/-- The first free place on the trail of a word. A trail comes by every place once nothing is left
of the word, which takes thirteen steps. -/
def freePlace (size : Nat) (taken : List Nat) (word : Nat) : Nat :=
  ((trail size (size + 13) (word % size) word).find? fun place => !taken.contains place).getD 0

def order (items : List Value) : List Value :=
  match items.mapM fun item => item.quantity?.bind residue? with
  | none => items
  | some residues =>
    let size := tableSize items.length
    let places := residues.foldl (fun taken residue =>
      taken ++ [freePlace size taken (word residue)]) []
    ((places.zip items).mergeSort fun a b => a.1 ≤ b.1).map (·.2)

end Gatekeeper.Scatter
