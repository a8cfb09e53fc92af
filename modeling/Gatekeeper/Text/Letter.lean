/-! Letters of texts as files spell them. A character beyond the first plane may be spelled by two
codes, and a file may spell one of them without the other; such a half is a letter, but no
character. -/
namespace Gatekeeper.Text

inductive Letter where
  | char (value : Char)
  /-- One half of a pair of codes. -/
  | half (code : Nat)
deriving DecidableEq, Repr

namespace Letter

def ofCode (code : Nat) : Letter :=
  if 0xD800 ≤ code ∧ code < 0xE000 then .half code else .char (Char.ofNat code)

def char? : Letter → Option Char
  | char value => some value
  | half _ => none

def replacement : Char := '\ufffd'

def outline (letter : Letter) : Char :=
  letter.char?.getD replacement

end Letter

def lettersOf (text : String) : List Letter :=
  text.toList.map .char

def charsOf? : List Letter → Option (List Char)
  | [] => some []
  | .char char :: rest => (charsOf? rest).map (char :: ·)
  | .half _ :: _ => none

def textOf? (letters : List Letter) : Option String :=
  (charsOf? letters).map String.ofList

def outline (letters : List Letter) : String :=
  String.ofList (letters.map Letter.outline)

@[simp] theorem length_lettersOf (text : String) : (lettersOf text).length = text.length := by
  rw [lettersOf, List.length_map, String.length_toList]

theorem charsOf?_map_char (chars : List Char) :
    charsOf? (chars.map Letter.char) = some chars := by
  induction chars with
  | nil => rfl
  | cons char rest ih => simp [charsOf?, ih]

@[simp] theorem textOf?_lettersOf (text : String) : textOf? (lettersOf text) = some text := by
  simp [textOf?, lettersOf, charsOf?_map_char]

end Gatekeeper.Text
