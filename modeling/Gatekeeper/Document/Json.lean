import Gatekeeper.Document.Numeral

/-! Documents in JSON. A text is read once, character by character: tokens go to a reader that keeps
a stack of the lists and tables that are still open. Beyond the standard there are words for what is
not a number or not finite, and of two values under one key the last one counts. -/
namespace Gatekeeper.Document.Json

open Number
open Text (Letter)

inductive Token where
  | openList
  | openTable
  | closeList
  | closeTable
  | comma
  | colon
  | text (letters : List Letter)
  | word (chars : List Char)
  | stray

/-- What a character belongs to. Collected letters are kept newest first. -/
inductive Mode where
  | between
  | word (chars : List Char)
  | text (letters : List Letter)
  | escape (letters : List Letter)
  /-- A code of four digits. The first half of a pair of codes may have come before it. -/
  | code (letters : List Letter) (half : Option Nat) (digits : List Char)
  | halfway (letters : List Letter) (half : Nat)
  | halfwayEscape (letters : List Letter) (half : Nat)

def isWordChar (char : Char) : Bool :=
  char.isAlphanum || char == '+' || char == '-' || char == '.'

def fraction (chars : List Char) : List Char :=
  match chars with
  | '.' :: rest =>
    let digits := rest.takeWhile Char.isDigit
    if digits.isEmpty then [] else '.' :: digits
  | _ => []

def exponent (chars : List Char) : List Char :=
  match chars with
  | mark :: rest =>
    if mark = 'e' ∨ mark = 'E' then
      let sign := rest.take (if rest.head? = some '+' ∨ rest.head? = some '-' then 1 else 0)
      let digits := (rest.drop sign.length).takeWhile Char.isDigit
      if digits.isEmpty then [] else mark :: sign ++ digits
    else []
  | [] => []

/-- A number without a point and an exponent is an integer. A leading zero stands alone. Nothing may
follow a number, but an integer is read before that is seen. -/
def number (chars : List Char) : Except Fault Value := do
  let (negative, size) := match chars with
    | '-' :: rest => (true, rest)
    | _ => (false, chars)
  let whole := if size.head? = some '0' then ['0'] else size.takeWhile Char.isDigit
  let part := fraction (size.drop whole.length)
  let power := exponent (size.drop (whole ++ part).length)
  let length := (whole ++ part ++ power).length
  if whole.isEmpty then throw .badJson
  if part.isEmpty && power.isEmpty then
    let n ← Numeral.whole 10 (whole.map .char)
    if length < size.length then throw .badJson
    return .int (if negative then -n else n)
  if length < size.length then throw .badJson
  match readDecimal? size with
  | none => throw .badJson
  | some (digits, exponent) =>
    let x := Double.ofDecimal digits exponent
    return .float (if negative then x.negate else x)

def word (chars : List Char) : Except Fault Value :=
  match String.ofList chars with
  | "null" => .ok .null
  | "true" => .ok (.bool true)
  | "false" => .ok (.bool false)
  | "NaN" => .ok (.float Double.nan)
  | "Infinity" => .ok (.float Double.infinity)
  | "-Infinity" => .ok (.float Double.infinity.negate)
  | _ => number chars

def isBlank (char : Char) : Bool :=
  char == ' ' || char == '\t' || char == '\n' || char == '\r'

def escaped? : Char → Option Char
  | '"' => some '"'
  | '\\' => some '\\'
  | '/' => some '/'
  | 'b' => some '\x08'
  | 'f' => some '\x0c'
  | 'n' => some '\n'
  | 'r' => some '\r'
  | 't' => some '\t'
  | _ => none

def joined (first second : Nat) : Char :=
  Char.ofNat (0x10000 + (first - 0xD800) * 0x400 + (second - 0xDC00))

/-- The mode after a code. A first half waits for a second one, and a second half completes a first
one if one came right before it. -/
def endCode (letters : List Letter) (half : Option Nat) (code : Nat) : Mode :=
  let isFirst := 0xD800 ≤ code && code < 0xDC00
  let isSecond := 0xDC00 ≤ code && code < 0xE000
  match half with
  | some first =>
    if isSecond then .text (.char (joined first code) :: letters)
    else if isFirst then .halfway (.half first :: letters) code
    else .text (.ofCode code :: .half first :: letters)
  | none => if isFirst then .halfway letters code else .text (.ofCode code :: letters)

def inText (letters : List Letter) (char : Char) : Except Fault (Mode × List Token) :=
  if char = '"' then .ok (.between, [.text letters.reverse])
  else if char = '\\' then .ok (.escape letters, [])
  else if char.toNat < 0x20 then .error .badJson
  else .ok (.text (.char char :: letters), [])

def inEscape (letters : List Letter) (half : Option Nat) (char : Char) :
    Except Fault (Mode × List Token) :=
  if char = 'u' then .ok (.code letters half [], [])
  else
    match escaped? char with
    | some stands => .ok (.text (.char stands :: (half.map Letter.half).toList ++ letters), [])
    | none => .error .badJson

def inBetween (char : Char) : Mode × List Token :=
  if isBlank char then (.between, [])
  else if isWordChar char then (.word [char], [])
  else match char with
    | '"' => (.text [], [])
    | '[' => (.between, [.openList])
    | ']' => (.between, [.closeList])
    | '{' => (.between, [.openTable])
    | '}' => (.between, [.closeTable])
    | ',' => (.between, [.comma])
    | ':' => (.between, [.colon])
    | _ => (.between, [.stray])

def step (mode : Mode) (char : Char) : Except Fault (Mode × List Token) :=
  match mode with
  | .between => .ok (inBetween char)
  | .word chars =>
    if isWordChar char then .ok (.word (char :: chars), [])
    else
      let (mode, tokens) := inBetween char
      .ok (mode, .word chars.reverse :: tokens)
  | .text letters => inText letters char
  | .escape letters => inEscape letters none char
  | .code letters half digits =>
    if (Numeral.hexDigit? char).isNone then .error .badJson
    else if digits.length = 3 then
      .ok (endCode letters half (Numeral.value 16 (char :: digits).reverse), [])
    else .ok (.code letters half (char :: digits), [])
  | .halfway letters half =>
    if char = '\\' then .ok (.halfwayEscape letters half, [])
    else inText (.half half :: letters) char
  | .halfwayEscape letters half => inEscape letters (some half) char

inductive Frame where
  | list (items : List Value)
  | table (entries : Table) (key : Value)

inductive Stage where
  | value
  | item
  | key (entries : Table) (first : Bool)
  | colon (entries : Table) (key : Value)
  | complete (value : Value)

structure Reader where
  frames : List Frame := []
  stage : Stage := .value

def maxDepth : Nat := 975

def Reader.descend (frames : List Frame) (reader : Reader) : Except Fault Reader :=
  if frames.length < maxDepth then .ok reader else .error .tooDeep

def Reader.start (frames : List Frame) : Token → Except Fault Reader
  | .openList => descend frames ⟨.list [] :: frames, .item⟩
  | .openTable => descend frames ⟨frames, .key [] true⟩
  | .text letters => .ok ⟨frames, .complete (.ofLetters letters)⟩
  | .word chars => do return ⟨frames, .complete (← word chars)⟩
  | _ => .error .badJson

def Reader.feed (reader : Reader) (token : Token) : Except Fault Reader :=
  match reader.stage with
  | .value => start reader.frames token
  | .item =>
    match token, reader.frames with
    | .closeList, .list items :: frames => .ok ⟨frames, .complete (.list items.reverse)⟩
    | _, _ => start reader.frames token
  | .key entries first =>
    match token, first with
    | .text key, _ => .ok ⟨reader.frames, .colon entries (.ofLetters key)⟩
    | .closeTable, true => .ok ⟨reader.frames, .complete (.table (Table.merge [] entries.reverse))⟩
    | _, _ => .error .badJson
  | .colon entries key =>
    match token with
    | .colon => .ok ⟨.table entries key :: reader.frames, .value⟩
    | _ => .error .badJson
  | .complete value =>
    match reader.frames, token with
    | .list items :: frames, .comma => .ok ⟨.list (value :: items) :: frames, .value⟩
    | .list items :: frames, .closeList => .ok ⟨frames, .complete (.list (value :: items).reverse)⟩
    | .table entries key :: frames, .comma => .ok ⟨frames, .key ((key, value) :: entries) false⟩
    | .table entries key :: frames, .closeTable =>
      .ok ⟨frames, .complete (.table (Table.merge [] ((key, value) :: entries).reverse))⟩
    | _, _ => .error .badJson

structure Reading where
  mode : Mode := .between
  reader : Reader := {}

def Reading.feed (reading : Reading) (char : Char) : Except Fault Reading := do
  let (mode, found) ← step reading.mode char
  return ⟨mode, ← found.foldlM Reader.feed reading.reader⟩

def Reading.finish (reading : Reading) : Except Fault Value := do
  let reader ← match reading.mode with
    | .between => .ok reading.reader
    | .word chars => reading.reader.feed (.word chars.reverse)
    | _ => .error .badJson
  match reader.frames, reader.stage with
  | [], .complete value => return value
  | _, _ => throw .badJson

def read (text : String) : Except Fault Value := do
  (← text.toList.foldlM Reading.feed {}).finish

end Gatekeeper.Document.Json
