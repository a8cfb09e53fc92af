import Gatekeeper.Document.Yaml.Lexeme

/-! The tokens of a YAML text. Indentation becomes tokens that begin and end blocks. Whether a text
is a key shows only at the colon behind it, so tokens that may begin a key are remembered until the
line ends, and what marks a key is put in front of them then. Where a text goes wrong, its tokens
end with the fault, which matters only to whoever reads on to there. -/
namespace Gatekeeper.Document.Yaml

open Text (Letter)

inductive Token where
  | directive (directive : Directive)
  | documentStart
  | documentEnd
  | blockList
  | blockTable
  | blockEnd
  | openList
  | closeList
  | openTable
  | closeTable
  | comma
  | dash
  | key
  | value
  | anchor (name : String)
  | reference (name : String)
  | tag (tag : Tag)
  | scalar (plain : Bool) (text : List Letter)
  | broken (fault : Fault)

/-- A place where a key may begin: outside of brackets or inside so many, in front of a token.
Outside of brackets a text at the margin of a block has to be a key. -/
structure Candidate where
  depth : Nat
  place : Nat
  required : Bool
  glyph : Glyph

def maxKey : Nat := 1024

def Candidate.isOver (candidate : Candidate) (glyph : Glyph) : Bool :=
  candidate.glyph.line != glyph.line || glyph.index - candidate.glyph.index > maxKey

/-- What is open at some point of a text. A margin is the first column inside a block. -/
structure Layout where
  /-- Newest first. -/
  tokens : List Token := []
  margins : List Nat := []
  depth : Nat := 0
  keyAllowed : Bool := true
  candidates : List Candidate := []

namespace Layout

def margin (layout : Layout) : Nat :=
  layout.margins.head?.getD 0

def emit (layout : Layout) (token : Token) : Layout :=
  { layout with tokens := token :: layout.tokens }

def allowKey (layout : Layout) (keyAllowed : Bool) : Layout :=
  { layout with keyAllowed := keyAllowed }

def giveUp (layout : Layout) (lost : Candidate → Bool) : Except Fault Layout :=
  if (layout.candidates.filter lost).any Candidate.required then .error .badYaml
  else .ok { layout with candidates := layout.candidates.filter (!lost ·) }

def expire (layout : Layout) (glyph : Glyph) : Except Fault Layout :=
  layout.giveUp (·.isOver glyph)

/-- What is known of the tokens where the text goes wrong behind them, at a place that is given by
what follows them. A token that could still turn out to be a key is not known, nor is what comes
after it. -/
def breakOff (layout : Layout) (rest : List Glyph) (fault : Fault) : List Token :=
  let pending := layout.candidates.filter fun candidate => rest.head?.all (!candidate.isOver ·)
  let tokens := layout.tokens.reverse
  let known := match (pending.map Candidate.place).min? with
    | some place => tokens.take place
    | none => tokens
  known ++ [.broken fault]

def dropKey (layout : Layout) : Except Fault Layout :=
  layout.giveUp fun candidate => candidate.depth == layout.depth

def offerKey (layout : Layout) (glyph : Glyph) : Except Fault Layout :=
  if !layout.keyAllowed then .ok layout
  else do
    let layout ← layout.dropKey
    let required := layout.depth == 0 && layout.margin == glyph.column + 1
    return { layout with candidates :=
      ⟨layout.depth, layout.tokens.length, required, glyph⟩ :: layout.candidates }

def outdent (layout : Layout) (limit : Nat) : Layout :=
  if layout.depth ≠ 0 then layout
  else
    let ended := layout.margins.takeWhile (limit < ·)
    { layout with
      tokens := ended.map (fun _ => Token.blockEnd) ++ layout.tokens
      margins := layout.margins.drop ended.length }

def insert (layout : Layout) (place : Nat) (token : Token) : Layout :=
  let later := layout.tokens.length - place
  { layout with tokens := layout.tokens.take later ++ token :: layout.tokens.drop later }

def begin (layout : Layout) (column place : Nat) (token : Token) : Layout :=
  if layout.depth = 0 ∧ layout.margin ≤ column then
    let layout := layout.insert place token
    { layout with margins := (column + 1) :: layout.margins }
  else layout

def apart (layout : Layout) (token : Token) : Except Fault Layout := do
  return ((← (layout.outdent 0).dropKey).allowKey false).emit token

def openBracket (layout : Layout) (glyph : Glyph) (token : Token) : Except Fault Layout := do
  let layout ← layout.offerKey glyph
  return ({ layout with depth := layout.depth + 1 }.allowKey true).emit token

def closeBracket (layout : Layout) (token : Token) : Except Fault Layout :=
  if layout.depth = 0 then .error .badYaml
  else do
    let layout ← layout.dropKey
    return ({ layout with depth := layout.depth - 1 }.allowKey false).emit token

def comma (layout : Layout) : Except Fault Layout := do
  return (← (layout.allowKey true).dropKey).emit .comma

def blockMark (layout : Layout) (column : Nat) (block mark : Token) (after : Bool) :
    Except Fault Layout :=
  if layout.depth = 0 ∧ !layout.keyAllowed then .error .badYaml
  else do
    let layout := layout.begin column layout.tokens.length block
    return (← (layout.allowKey after).dropKey).emit mark

def value (layout : Layout) (column : Nat) : Except Fault Layout :=
  match layout.candidates.find? (·.depth == layout.depth) with
  | some candidate =>
    let layout := { layout with
      candidates := layout.candidates.filter (·.depth != layout.depth) }
    let layout := layout.insert candidate.place .key
    let layout := layout.begin candidate.glyph.column candidate.place .blockTable
    .ok ((layout.allowKey false).emit .value)
  | none => layout.blockMark column .blockTable .value (layout.depth == 0)

def leaf (layout : Layout) (glyph : Glyph) (token : Token) : Except Fault Layout := do
  return ((← layout.offerKey glyph).allowKey false).emit token

end Layout

def skipped (comment crossed : Bool) : List Glyph → Bool × List Glyph
  | [] => (crossed, [])
  | glyph :: rest =>
    if isBreak glyph.char then skipped false true rest
    else if comment then skipped true crossed rest
    else if glyph.char = ' ' then skipped false crossed rest
    else if glyph.char = '#' then skipped true crossed rest
    else (crossed, glyph :: rest)

def isMark (char : Char) : Bool :=
  isGap char || "-?:,[]\x7b\x7d#&*!|>'\"%@\x60".toList.contains char

def nextToken (fault : Option Fault) (layout : Layout) (glyph : Glyph) (rest : List Glyph) :
    Except Fault (Layout × List Glyph) := do
  let here := glyph :: rest
  let ending := fault.getD .badYaml
  let flow := layout.depth != 0
  let marks := flow || aheadOrEnd isGap rest
  if glyph.char = '%' ∧ glyph.column = 0 then
    let (found, rest) ← directive ending rest
    return (← layout.apart (.directive found), rest)
  if atSeparator here then
    let token := if glyph.char = '-' then Token.documentStart else .documentEnd
    return (← layout.apart token, rest.drop 2)
  match glyph.char with
  | '[' => return (← layout.openBracket glyph .openList, rest)
  | '{' => return (← layout.openBracket glyph .openTable, rest)
  | ']' => return (← layout.closeBracket .closeList, rest)
  | '}' => return (← layout.closeBracket .closeTable, rest)
  | ',' => return (← layout.comma, rest)
  | '*' => do
    let (name, rest) ← anchor ending rest
    return (← layout.leaf glyph (.reference name), rest)
  | '&' => do
    let (name, rest) ← anchor ending rest
    return (← layout.leaf glyph (.anchor name), rest)
  | '!' => do
    let (found, rest) ← tag ending here
    return (← layout.leaf glyph (.tag found), rest)
  | '\'' => do
    let (text, rest) ← quoted ending false [] .none rest
    return (← layout.leaf glyph (.scalar false text), rest)
  | '"' => do
    let (text, rest) ← quoted ending true [] .none rest
    return (← layout.leaf glyph (.scalar false text), rest)
  | char =>
    if char = '-' ∧ aheadOrEnd isGap rest then
      return (← layout.blockMark glyph.column .blockList .dash true, rest)
    else if char = '?' ∧ marks then
      return (← layout.blockMark glyph.column .blockTable .key (!flow), rest)
    else if char = ':' ∧ marks then return (← layout.value glyph.column, rest)
    else if (char = '|' ∨ char = '>') ∧ !flow then do
      let (text, rest) ← block (char == '>') layout.margin rest
      let layout ← (layout.allowKey true).dropKey
      return (layout.emit (.scalar false (text.map .char)), rest)
    else if !isMark char ||
        (!aheadOrEnd isGap rest && (char == '-' || (!flow && (char == '?' || char == ':')))) then do
      let found := plain flow layout.margin here
      if fault.isSome && found.isCutShort then throw ending
      let layout ← layout.leaf glyph (.scalar true (found.text.map .char))
      return (layout.allowKey found.crossed, found.rest)
    else throw .badYaml

/-- Whether what stands at a character hangs on characters that are not there any more: on one more,
or on two where a separator of documents can begin. -/
def isCutShort (glyph : Glyph) (rest : List Glyph) : Bool :=
  let needed := if glyph.column == 0 && (glyph.char == '-' || glyph.char == '.') then 2 else 1
  (rest.take needed).length < needed

def Layout.fetch (fault : Option Fault) (layout : Layout) (glyph : Glyph) (rest : List Glyph) :
    Except Fault (Layout × List Glyph) := do
  let layout ← layout.expire glyph
  if let some fault := fault then
    if isCutShort glyph rest then throw fault
  let (layout, after) ← nextToken fault (layout.outdent (glyph.column + 1)) glyph rest
  if let some fault := fault then
    if after.isEmpty then throw fault
  return (layout, after)

def Layout.finish (fault : Option Fault) (layout : Layout) : Except Fault (List Token) := do
  if let some fault := fault then throw fault
  return ((← layout.giveUp fun _ => true).outdent 0).tokens.reverse

def tokensFrom (fault : Option Fault) (layout : Layout) (glyphs : List Glyph) : List Token :=
  let (crossed, rest) := skipped false false glyphs
  let ready := if crossed && layout.depth == 0 then layout.allowKey true else layout
  match rest with
  | [] =>
    match ready.finish fault with
    | .ok tokens => tokens
    | .error fault => layout.breakOff glyphs fault
  | glyph :: after =>
    match ready.fetch fault glyph after with
    | .ok (next, rest) =>
      if rest.length < glyphs.length then tokensFrom fault next rest
      else layout.breakOff glyphs .badYaml
    | .error fault => layout.breakOff glyphs fault
termination_by glyphs.length

def tokens (source : Source) : List Token :=
  let glyphs := glyphs source.chars
  tokensFrom source.fault {} (if ahead (· == byteOrderMark) glyphs then glyphs.drop 1 else glyphs)

end Gatekeeper.Document.Yaml
