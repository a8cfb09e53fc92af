import Gatekeeper.Document.Numeral
import Gatekeeper.Document.Yaml.Glyph

/-! The spellings of texts and names in YAML. Each reader takes the characters from where a text
begins and gives what it says and the rest. -/
namespace Gatekeeper.Document.Yaml

open Text (Letter)

inductive Gap where
  | blanks (chars : List Char)
  | broken (first : Option Char) (more : List Char)

namespace Gap

def none : Gap := .blanks []

def blank (char : Char) : Gap → Gap
  | .blanks chars => .blanks (char :: chars)
  | gap => gap

def lineBreak (char : Char) : Gap → Gap
  | .blanks _ => .broken (some char) []
  | .broken first more => .broken first (char :: more)

end Gap

/-- A first line feed is a space if no other break follows it, and otherwise falls away. -/
def folded (first : Char) (more : List Char) : List Char :=
  if first = '\n' then if more.isEmpty then [' '] else more else first :: more

def Gap.chars : Gap → List Char
  | .blanks chars => chars
  | .broken (some first) more => (folded first more.reverse).reverse
  | .broken .none more => more

def Gap.onto (text : List Letter) (gap : Gap) : List Letter :=
  gap.chars.map .char ++ text

def escaped? (char : Char) : Option Char :=
  match char with
  | '0' => some '\x00'
  | 'a' => some '\x07'
  | 'b' => some '\x08'
  | 't' | '\t' => some '\t'
  | 'n' => some '\n'
  | 'v' => some '\x0b'
  | 'f' => some '\x0c'
  | 'r' => some '\r'
  | 'e' => some '\x1b'
  | ' ' => some ' '
  | '"' => some '"'
  | '\\' => some '\\'
  | '/' => some '/'
  | 'N' => some '\x85'
  | '_' => some '\xa0'
  | 'L' => some '\u2028'
  | 'P' => some '\u2029'
  | _ => none

def codeWidth? : Char → Option Nat
  | 'x' => some 2
  | 'u' => some 4
  | 'U' => some 8
  | _ => none

/-- What is wrong with characters that do not go on as they have to. Where a text ends too early,
it is the fault of its end. -/
def wrong (ending : Fault) (glyphs : List Glyph) : Fault :=
  if glyphs.isEmpty then ending else .badYaml

def letterOf (code : Nat) : Except Fault Letter :=
  if 0x80000000 ≤ code then .error .overflow
  else if 0x110000 ≤ code then .error (.badValue "chr() arg not in range(0x110000)")
  else .ok (.ofCode code)

def coded (ending : Fault) (width : Nat) (glyphs : List Glyph) : Except Fault Letter :=
  let digits := (glyphs.take width).map Glyph.char
  if digits.any fun digit => (Numeral.hexDigit? digit).isNone then .error .badYaml
  else if digits.length < width then .error ending
  else letterOf (Numeral.value 16 digits)

/-- A text up to its closing quote. In single quotes only the quote itself is special, and is
written twice; in double ones a backslash escapes a character or the end of a line. The fault is
that of a text that ends here. -/
def quoted (ending : Fault) (double : Bool) (text : List Letter) (gap : Gap)
    (glyphs : List Glyph) : Except Fault (List Letter × List Glyph) :=
  match glyphs with
  | [] => .error ending
  | glyph :: rest =>
    if glyph.char = ' ' ∨ glyph.char = '\t' then
      quoted ending double text (gap.blank glyph.char) rest
    else if isBreak glyph.char then
      if atSeparator rest then .error (wrong ending (rest.drop 3))
      else quoted ending double text (gap.lineBreak (keptBreak glyph.char)) rest
    else
      let text := gap.onto text
      if double then
        if glyph.char = '"' then .ok (text.reverse, rest)
        else if glyph.char = '\\' then
          match rest with
          | [] => .error ending
          | escape :: after =>
            if isBreak escape.char then
              if atSeparator after then .error (wrong ending (after.drop 3))
              else quoted ending double text (.broken none []) after
            else
              match escaped? escape.char, codeWidth? escape.char with
              | some char, _ => quoted ending double (.char char :: text) .none after
              | none, some width =>
                match coded ending width after with
                | .ok letter => quoted ending double (letter :: text) .none (after.drop width)
                | .error fault => .error fault
              | none, none => .error .badYaml
        else quoted ending double (.char glyph.char :: text) .none rest
      else if glyph.char = '\'' then
        if ahead (· == '\'') rest then quoted ending double (.char '\'' :: text) .none (rest.drop 1)
        else .ok (text.reverse, rest)
      else quoted ending double (.char glyph.char :: text) .none rest
termination_by glyphs.length
decreasing_by all_goals simp only [List.length_cons, List.length_drop]; omega

def isFlowMark (char : Char) : Bool :=
  char == ',' || char == '[' || char == ']' || char == '{' || char == '}'

def endsPlain (flow : Bool) (char : Char) (rest : List Glyph) : Bool :=
  isGap char || (char == ':' && (aheadOrEnd isGap rest || (flow && ahead isFlowMark rest))) ||
    (flow && (char == '?' || isFlowMark char))

def plainRun (flow : Bool) : List Glyph → List Char × List Glyph
  | [] => ([], [])
  | glyph :: rest =>
    if endsPlain flow glyph.char rest then ([], glyph :: rest)
    else
      let (chars, after) := plainRun flow rest
      (glyph.char :: chars, after)

def emptyLines : List Glyph → Option (List Char) × List Glyph
  | [] => (some [], [])
  | glyph :: rest =>
    if atSeparator (glyph :: rest) then (none, glyph :: rest)
    else if glyph.char = ' ' then emptyLines rest
    else if isBreak glyph.char then
      let (breaks, after) := emptyLines rest
      (breaks.map (keptBreak glyph.char :: ·), after)
    else (some [], glyph :: rest)

structure Plain where
  text : List Char
  crossed : Bool
  rest : List Glyph

def plainGap (glyphs : List Glyph) : Plain :=
  let (spaces, rest) := run (· == ' ') glyphs
  match rest with
  | [] => ⟨spaces, false, []⟩
  | glyph :: after =>
    if isBreak glyph.char then
      match emptyLines after with
      | (none, rest) => ⟨[], true, rest⟩
      | (some breaks, rest) => ⟨folded (keptBreak glyph.char) breaks, true, rest⟩
    else ⟨spaces, false, rest⟩

def plainFrom (flow : Bool) (margin : Nat) (before : Plain) (gap : List Char) : Plain :=
  let (words, rest) := plainRun flow before.rest
  if words.isEmpty then before
  else
    let next := plainGap rest
    let here : Plain := { next with text := before.text ++ gap ++ words }
    let outdented := !flow && next.rest.head?.any fun glyph => glyph.column < margin
    if next.text.isEmpty || ahead (· == '#') next.rest || outdented then here
    else if here.rest.length < before.rest.length then plainFrom flow margin here next.text
    else here
termination_by before.rest.length

def plain (flow : Bool) (margin : Nat) (glyphs : List Glyph) : Plain :=
  plainFrom flow margin ⟨[], false, glyphs⟩ []

/-- Whether the end of a plain text hangs on characters that are not there any more: on one after a
colon, or on some that could be a separator of documents. -/
def Plain.isCutShort (plain : Plain) : Bool :=
  match plain.rest with
  | [] => true
  | [glyph] => glyph.char == ':' || (plain.crossed && glyph.column < 2)
  | [glyph, _] => plain.crossed && glyph.column < 1
  | _ => false

inductive Ending where
  | one
  | none
  | all
deriving DecidableEq

def blockMarks (glyphs : List Glyph) : Except Fault (Ending × Option Nat × List Glyph) :=
  let sign? (glyphs : List Glyph) : Option Ending × List Glyph :=
    if ahead (· == '+') glyphs then (some .all, glyphs.drop 1)
    else if ahead (· == '-') glyphs then (some .none, glyphs.drop 1)
    else (none, glyphs)
  let depth? (glyphs : List Glyph) : Option Nat × List Glyph :=
    match glyphs with
    | glyph :: rest =>
      if glyph.char.isDigit then (some (glyph.char.toNat - '0'.toNat), rest) else (none, glyphs)
    | [] => (none, [])
  let (first, rest) := sign? glyphs
  let (depth, rest) := depth? rest
  let (second, rest) := if first.isNone && depth.isSome then sign? rest else (none, rest)
  if depth == some 0 || !aheadOrEnd isSpaceOrBreak rest then .error .badYaml
  else .ok ((first <|> second).getD .one, depth, rest)

def blockBreaks (column : Nat) : List Glyph → List Char × List Glyph
  | [] => ([], [])
  | glyph :: rest =>
    if glyph.char = ' ' ∧ glyph.column < column then blockBreaks column rest
    else if isBreak glyph.char then
      let (breaks, after) := blockBreaks column rest
      (keptBreak glyph.char :: breaks, after)
    else ([], glyph :: rest)

theorem length_blockBreaks_le (column : Nat) (glyphs : List Glyph) :
    (blockBreaks column glyphs).2.length ≤ glyphs.length := by
  induction glyphs with
  | nil => simp [blockBreaks]
  | cons glyph rest ih =>
    rw [blockBreaks]
    split
    · simp only [List.length_cons]; omega
    · split
      · simp only [List.length_cons]; omega
      · simp

structure Block where
  text : List Char
  lineBreak : List Char
  breaks : List Char

/-- The lines of a block. In a folded block a single break between lines that are not indented
further is a space. -/
def blockLines (fold : Bool) (column : Nat) (block : Block) : List Glyph → Block × List Glyph
  | [] => (block, [])
  | glyph :: after =>
    if glyph.column ≠ column then (block, glyph :: after)
    else
      let line := glyph.char :: (run (!isBreak ·) after).1
      let ended := after.dropWhile fun glyph => !isBreak glyph.char
      let lineBreak := (ended.head?.map fun glyph => keptBreak glyph.char).toList
      let next := blockBreaks column (ended.drop 1)
      let blank (char : Char) := char == ' ' || char == '\t'
      let joined := fold && lineBreak == ['\n'] && !blank glyph.char && !ahead blank next.2
      let more := next.2.head?.any fun glyph => glyph.column == column
      let between := if !more then []
        else if joined then if next.1.isEmpty then [' '] else []
        else lineBreak
      blockLines fold column
        ⟨block.text ++ block.breaks ++ line ++ between, lineBreak, next.1⟩ next.2
termination_by glyphs => glyphs.length
decreasing_by
  have h₁ := length_blockBreaks_le column
    ((after.dropWhile fun glyph => !isBreak glyph.char).drop 1)
  have h₂ := length_dropWhile_le (fun glyph : Glyph => !isBreak glyph.char) after
  simp only [List.length_drop] at h₁
  simp only [List.length_cons]
  omega

/-- A block of text after its sign, kept line by line or folded. Unless its indentation is given, it
is that of the deepest of the lines up to the first one with text. -/
def block (fold : Bool) (margin : Nat) (glyphs : List Glyph) :
    Except Fault (List Char × List Glyph) := do
  let (ending, depth, rest) ← blockMarks glyphs
  let some rest := restOfLine? rest | throw .badYaml
  let least := max margin 1
  let (column, breaks, rest) := match depth with
    | some depth =>
      let column := least + depth - 1
      let (breaks, rest) := blockBreaks column rest
      (column, breaks, rest)
    | none =>
      let lead := rest.takeWhile fun glyph => isSpaceOrBreak glyph.char
      let deepest := (lead.filter (·.char == ' ')).foldl (fun most glyph =>
        max most (glyph.column + 1)) 0
      (max least deepest, ((lead.map Glyph.char).filter isBreak).map keptBreak,
        rest.drop lead.length)
  let (result, rest) := blockLines fold column ⟨[], [], breaks⟩ rest
  let ends := match ending with
    | .none => []
    | .one => result.lineBreak
    | .all => result.lineBreak ++ result.breaks
  return (result.text ++ ends, rest)

def isNameChar (char : Char) : Bool :=
  char.isAlphanum || char == '-' || char == '_'

def anchor (ending : Fault) (glyphs : List Glyph) : Except Fault (String × List Glyph) :=
  let (name, rest) := run isNameChar glyphs
  let ends (char : Char) := isGap char || ['?', ':', ',', ']', '}', '%', '@', '\x60'].contains char
  if name.isEmpty || !aheadOrEnd ends rest then .error (wrong ending rest)
  else .ok (String.ofList name, rest)

def isUriChar (char : Char) : Bool :=
  char.isAlphanum || "-;/?:@&=+$,_.!~*'()[]%".toList.contains char

def unescaped? (bytes : List UInt8) : List Char → Option (List Char)
  | '%' :: high :: low :: rest => do
    let high ← Numeral.hexDigit? high
    let low ← Numeral.hexDigit? low
    unescaped? (bytes ++ [(16 * high + low).toUInt8]) rest
  | chars => do
    let text ← String.fromUTF8? ⟨bytes.toArray⟩
    match chars with
    | [] => return text.toList
    | char :: rest =>
      if char = '%' then none else return text.toList ++ char :: (← unescaped? [] rest)

def uri (ending : Fault) (glyphs : List Glyph) : Except Fault (String × List Glyph) :=
  let (chars, rest) := run isUriChar glyphs
  match unescaped? [] chars with
  | some text =>
    if text.isEmpty then .error (wrong ending rest) else .ok (String.ofList text, rest)
  | none => .error (wrong ending rest)

def handle (ending : Fault) (glyphs : List Glyph) : Except Fault (String × List Glyph) :=
  if !ahead (· == '!') glyphs then .error (wrong ending glyphs)
  else if ahead (· == ' ') (glyphs.drop 1) then .ok ("!", glyphs.drop 1)
  else
    let (name, rest) := run isNameChar (glyphs.drop 1)
    if ahead (· == '!') rest then .ok ("!" ++ String.ofList name ++ "!", rest.drop 1)
    else .error (wrong ending rest)

structure Tag where
  handle : Option String
  suffix : String

def tag (ending : Fault) (glyphs : List Glyph) : Except Fault (Tag × List Glyph) := do
  let inner := glyphs.drop 1
  let word := inner.takeWhile fun glyph => !isSpaceOrBreak glyph.char
  let (found, rest) ←
    if ahead (· == '<') inner then do
      let (name, rest) ← uri ending (inner.drop 1)
      if ahead (· == '>') rest then pure ((⟨none, name⟩ : Tag), rest.drop 1)
      else throw (wrong ending rest)
    else if aheadOrEnd isGap inner then pure (⟨none, "!"⟩, inner)
    else if word.any (·.char == '!') then do
      let (name, rest) ← handle ending glyphs
      let (suffix, rest) ← uri ending rest
      pure (⟨some name, suffix⟩, rest)
    else do
      -- A word without a handle is seen as a whole before it is read.
      let ending := wrong ending (inner.drop word.length)
      let (suffix, rest) ← (uri ending inner).mapError fun _ => ending
      if !aheadOrEnd isSpaceOrBreak rest then throw ending
      pure (⟨some "!", suffix⟩, rest)
  if aheadOrEnd isSpaceOrBreak rest then return (found, rest) else throw .badYaml

inductive Directive where
  | version (major : Int)
  | handle (name start : String)
  | other

def versionPart (ending : Fault) (glyphs : List Glyph) : Except Fault (Int × List Glyph) := do
  let (digits, rest) := run Char.isDigit glyphs
  if digits.isEmpty then throw (wrong ending rest)
  return (← Numeral.whole 10 (digits.map .char), rest)

def directive (ending : Fault) (glyphs : List Glyph) : Except Fault (Directive × List Glyph) := do
  let (name, rest) := run isNameChar glyphs
  if name.isEmpty || !aheadOrEnd isSpaceOrBreak rest then throw (wrong ending rest)
  let (found, rest) ← match String.ofList name with
    | "YAML" => do
      let (major, rest) ← versionPart ending (dropSpaces rest)
      if !ahead (· == '.') rest then throw (wrong ending rest)
      let (_, rest) ← versionPart ending (rest.drop 1)
      if !aheadOrEnd isSpaceOrBreak rest then throw .badYaml
      pure (Directive.version major, rest)
    | "TAG" => do
      let (name, rest) ← handle ending (dropSpaces rest)
      if !ahead (· == ' ') rest then throw (wrong ending rest)
      let (start, rest) ← uri ending (dropSpaces rest)
      if !aheadOrEnd isSpaceOrBreak rest then throw .badYaml
      pure (Directive.handle name start, rest)
    | _ => pure (.other, rest.dropWhile fun glyph => !isBreak glyph.char)
  match restOfLine? rest with
  | some rest => return (found, rest)
  | none => throw .badYaml

end Gatekeeper.Document.Yaml
