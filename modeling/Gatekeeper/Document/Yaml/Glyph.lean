import Gatekeeper.Fault
import Gatekeeper.Text.Range

/-! Characters with their places. Indentation carries meaning in YAML, so every character keeps its
line and column. Lines end at a line feed, a next line control, or a separator of lines or
paragraphs. -/
namespace Gatekeeper.Document.Yaml

structure Glyph where
  char : Char
  index : Nat
  line : Nat
  column : Nat

def isBreak (char : Char) : Bool :=
  char == '\n' || char == '\x85' || char == '\u2028' || char == '\u2029'

def keptBreak (char : Char) : Char :=
  if char = '\u2028' ∨ char = '\u2029' then char else '\n'

/-- The mark that may stand at the start of a text and takes no column. -/
def byteOrderMark : Char := '\ufeff'

def Glyph.after (glyph : Glyph) (char : Char) : Glyph :=
  let index := glyph.index + 1
  if isBreak glyph.char then ⟨char, index, glyph.line + 1, 0⟩
  else if glyph.char = byteOrderMark then ⟨char, index, glyph.line, glyph.column⟩
  else ⟨char, index, glyph.line, glyph.column + 1⟩

def Glyph.follow (glyph : Glyph) : List Char → List Glyph
  | [] => []
  | char :: rest => glyph.after char :: (glyph.after char).follow rest

def glyphs : List Char → List Glyph
  | [] => []
  | char :: rest => ⟨char, 0, 0, 0⟩ :: Glyph.follow ⟨char, 0, 0, 0⟩ rest

def allowed : List (Nat × Nat) :=
  [(0x9, 0xA), (0xD, 0xD), (0x20, 0x7E), (0x85, 0x85), (0xA0, 0xD7FF), (0xE000, 0xFFFD),
   (0x10000, 0x10FFFF)]

structure Source where
  chars : List Char
  fault : Option Fault

namespace Source

def piece : Nat := 4096

/-- How much is seen of a text in which something is wrong at a place: the pieces before the one
with that place. The first two pieces are taken in together. -/
def seen (place : Nat) : Nat :=
  if place < 2 * piece then 0 else place / piece * piece

def make (chars : List Char) (fault : Option Fault) : Source :=
  let visible := if fault.isSome then chars.take (seen chars.length) else chars
  match visible.findIdx? fun char => !Text.inRanges allowed char with
  | some place => ⟨visible.take (seen place), some .badYaml⟩
  | none => ⟨visible, fault⟩

end Source

def ahead (kind : Char → Bool) (glyphs : List Glyph) : Bool :=
  glyphs.head?.any fun glyph => kind glyph.char

def aheadOrEnd (kind : Char → Bool) (glyphs : List Glyph) : Bool :=
  glyphs.head?.all fun glyph => kind glyph.char

def isSpaceOrBreak (char : Char) : Bool :=
  char == ' ' || isBreak char

def isGap (char : Char) : Bool :=
  char == '\t' || isSpaceOrBreak char

def atSeparator : List Glyph → Bool
  | a :: b :: c :: rest =>
    a.column == 0 && (a.char == '-' || a.char == '.') && b.char == a.char && c.char == a.char &&
      aheadOrEnd isGap rest
  | _ => false

def run (kind : Char → Bool) (glyphs : List Glyph) : List Char × List Glyph :=
  ((glyphs.takeWhile fun glyph => kind glyph.char).map Glyph.char,
   glyphs.dropWhile fun glyph => kind glyph.char)

theorem length_dropWhile_le {α : Type} (kind : α → Bool) (list : List α) :
    (list.dropWhile kind).length ≤ list.length :=
  (List.dropWhile_sublist kind).length_le

def dropSpaces (glyphs : List Glyph) : List Glyph :=
  glyphs.dropWhile fun glyph => glyph.char == ' '

def restOfLine? (glyphs : List Glyph) : Option (List Glyph) :=
  let glyphs := dropSpaces glyphs
  let glyphs := if ahead (· == '#') glyphs then
      glyphs.dropWhile fun glyph => !isBreak glyph.char
    else glyphs
  if aheadOrEnd isBreak glyphs then some (glyphs.drop 1) else none

end Gatekeeper.Document.Yaml
