import Gatekeeper.Document.Numeral

/-! What a text in YAML is: a tag says so, or the form of a plain text does. -/
namespace Gatekeeper.Document.Yaml

open Number
open Text (Letter)

inductive Kind where
  | null
  | bool
  | int
  | float
  | binary
  | moment
  | str
  | list
  | pairs
  | set
  | table
  | merge
  | value
  | unknown
deriving DecidableEq, Repr

namespace Kind

def ofTag (tag : String) : Kind :=
  match tag with
  | "tag:yaml.org,2002:null" => .null
  | "tag:yaml.org,2002:bool" => .bool
  | "tag:yaml.org,2002:int" => .int
  | "tag:yaml.org,2002:float" => .float
  | "tag:yaml.org,2002:binary" => .binary
  | "tag:yaml.org,2002:timestamp" => .moment
  | "tag:yaml.org,2002:str" => .str
  | "tag:yaml.org,2002:seq" => .list
  | "tag:yaml.org,2002:omap" => .pairs
  | "tag:yaml.org,2002:pairs" => .pairs
  | "tag:yaml.org,2002:set" => .set
  | "tag:yaml.org,2002:map" => .table
  | "tag:yaml.org,2002:merge" => .merge
  | "tag:yaml.org,2002:value" => .value
  | _ => .unknown

end Kind

def boolWords : List String :=
  ["yes", "Yes", "YES", "no", "No", "NO", "true", "True", "TRUE", "false", "False", "FALSE",
   "on", "On", "ON", "off", "Off", "OFF"]

def nullWords : List String := ["~", "null", "Null", "NULL", ""]

/-- The signs of the syntax, which are nothing by themselves. -/
def reserved : List String := ["!", "&", "*"]

def unsigned (chars : List Char) : List Char :=
  (Numeral.sign chars).2

def unended (chars : List Char) : List Char :=
  if chars.getLast? = some '\n' then chars.dropLast else chars

def allOf (kind : Char → Bool) (chars : List Char) : Bool :=
  !chars.isEmpty && chars.all kind

def isDigitOrLine (char : Char) : Bool := char.isDigit || char == '_'

def isNumeral (chars : List Char) : Bool :=
  chars.head?.any Char.isDigit && chars.all isDigitOrLine

def isSixtieth : List Char → Bool
  | [digit] => digit.isDigit
  | [ten, digit] => '0' ≤ ten && ten ≤ '5' && digit.isDigit
  | _ => false

def isSexagesimal (lead : List Char → Bool) (chars : List Char) : Bool :=
  match chars.splitOn ':' with
  | first :: next :: more => lead first && (next :: more).all isSixtieth
  | _ => false

def isInt (chars : List Char) : Bool :=
  let size := unsigned chars
  let counted (chars : List Char) := isNumeral chars && chars.head? != some '0'
  match size with
  | '0' :: 'b' :: digits => allOf (fun c => c == '0' || c == '1' || c == '_') digits
  | '0' :: 'x' :: digits => allOf (fun c => (Numeral.hexDigit? c).isSome || c == '_') digits
  | '0' :: digits => digits.all fun c => ('0' ≤ c && c ≤ '7') || c == '_'
  | _ => counted size || isSexagesimal counted size

def isExponent : List Char → Bool
  | [] => true
  | mark :: sign :: digits =>
    (mark == 'e' || mark == 'E') && (sign == '+' || sign == '-') && allOf Char.isDigit digits
  | _ => false

def isFloat (chars : List Char) : Bool :=
  let size := unsigned chars
  let whole := size.takeWhile (· != '.')
  match size.dropWhile (· != '.') with
  | '.' :: after =>
    let part := after.takeWhile isDigitOrLine
    let rest := after.dropWhile isDigitOrLine
    if whole.isEmpty then
      (chars.length == size.length && part.head?.any Char.isDigit && isExponent rest) ||
        ["inf", "Inf", "INF"].contains (String.ofList after) ||
        (chars.length == size.length && ["nan", "NaN", "NAN"].contains (String.ofList after))
    else (isNumeral whole && isExponent rest) || (isSexagesimal isNumeral whole && rest.isEmpty)
  | _ => false

def digits? (least most : Nat) (chars : List Char) : Option (Nat × List Char) :=
  let digits := chars.takeWhile Char.isDigit
  if least ≤ digits.length ∧ digits.length ≤ most then
    some (Nat.ofDigitChars 10 digits 0, chars.dropWhile Char.isDigit)
  else none

def after? (mark : Char) : List Char → Option (List Char)
  | char :: rest => if char = mark then some rest else none
  | [] => none

def offset? : List Char → Option (Option Int)
  | [] => some none
  | ['Z'] => some (some 0)
  | sign :: rest => do
    guard (sign = '+' ∨ sign = '-')
    let (hours, rest) ← digits? 1 2 rest
    let (minutes, rest) ← match rest with
      | [] => some (0, [])
      | _ => do digits? 2 2 (← after? ':' rest)
    guard rest.isEmpty
    let size : Int := 60 * hours + minutes
    return some (if sign = '-' then -size else size)

def clock? (chars : List Char) : Option Clock := do
  let (hour, rest) ← digits? 1 2 chars
  let (minute, rest) ← digits? 2 2 (← after? ':' rest)
  let (second, rest) ← digits? 2 2 (← after? ':' rest)
  let (part, rest) := match rest with
    | '.' :: rest => (rest.takeWhile Char.isDigit, rest.dropWhile Char.isDigit)
    | _ => ([], rest)
  let micro := (part ++ List.replicate 6 '0').take 6
  let offset ← offset? (rest.dropWhile fun char => char == ' ' || char == '\t')
  guard (offset.isSome || rest.isEmpty)
  return ⟨hour, minute, second, Nat.ofDigitChars 10 micro 0, offset⟩

def moment? (chars : List Char) : Option Moment := do
  let (year, rest) ← digits? 4 4 chars
  let (month, rest) ← digits? 1 2 (← after? '-' rest)
  let (day, rest) ← digits? 1 2 (← after? '-' rest)
  match rest with
  | [] => return ⟨year, month, day, none⟩
  | mark :: time =>
    if mark = 'T' ∨ mark = 't' then return ⟨year, month, day, some (← clock? time)⟩
    else if mark = ' ' ∨ mark = '\t' then
      let time := time.dropWhile fun char => char == ' ' || char == '\t'
      return ⟨year, month, day, some (← clock? time)⟩
    else none

/-- A day without a time is written with all its digits. -/
def isMoment (chars : List Char) : Bool :=
  (moment? chars).any fun moment => moment.clock.isSome || chars.length == 10

/-- The kind of a plain text. A line feed at its end does not count, but is no text by itself. -/
def Kind.ofPlain (text : String) : Kind :=
  let chars := unended text.toList
  let word := String.ofList chars
  if text = "\n" then .str
  else if boolWords.contains word then .bool
  else if nullWords.contains word then .null
  else if word = "<<" then .merge
  else if word = "=" then .value
  else if reserved.contains word then .unknown
  else if isFloat chars then .float
  else if isInt chars then .int
  else if isMoment chars then .moment
  else .str

def Kind.ofLetters (letters : List Letter) : Kind :=
  ((Text.textOf? letters).map Kind.ofPlain).getD .str

end Gatekeeper.Document.Yaml
