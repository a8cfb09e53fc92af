import Gatekeeper.Text.Letter
import Gatekeeper.Text.Range

/-! Blank characters: the white space of Unicode 14 and the four information separators. -/
namespace Gatekeeper.Text

def blanks : List (Nat × Nat) :=
  [(9, 13), (28, 32), (133, 133), (160, 160), (5760, 5760), (8192, 8202), (8232, 8233), (8239,
    8239), (8287, 8287), (12288, 12288)]

def isBlank (char : Char) : Bool :=
  inRanges blanks char

def hasInk (text : String) : Bool :=
  text.toList.any fun char => !isBlank char

def Letter.isBlank : Letter → Bool
  | .char value => Text.isBlank value
  | .half _ => false

theorem any_lettersOf (text : String) : (lettersOf text).any (!Letter.isBlank ·) = hasInk text := by
  rw [lettersOf, List.any_map]
  rfl

end Gatekeeper.Text
