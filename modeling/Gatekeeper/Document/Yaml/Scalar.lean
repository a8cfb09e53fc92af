import Gatekeeper.Document.Yaml.Kind
import Gatekeeper.Text.Base64
import Gatekeeper.Text.Case

/-! What texts of the different kinds say. A text that is not of its kind is a fault. -/
namespace Gatekeeper.Document.Yaml

open Number
open Text (Letter)

def unlined (letters : List Letter) : List Letter :=
  letters.filter (· ≠ .char '_')

def signed (letters : List Letter) : Except Fault (Bool × List Letter) :=
  match letters with
  | [] => .error .noIndex
  | .char '-' :: rest => .ok (true, rest)
  | .char '+' :: rest => .ok (false, rest)
  | _ => .ok (false, letters)

def sizeOfInt (letters : List Letter) : Except Fault Int :=
  match letters with
  | [] => .error .noIndex
  | .char '0' :: .char 'b' :: digits => Numeral.whole 2 digits
  | .char '0' :: .char 'x' :: digits => Numeral.whole 16 digits
  | .char '0' :: rest => if rest.isEmpty then .ok 0 else Numeral.whole 8 letters
  | _ => do
    if letters.contains (.char ':') then
      let digits ← (letters.splitOn (.char ':')).mapM (Numeral.whole 10)
      return digits.foldl (fun total digit => 60 * total + digit) 0
    else Numeral.whole 10 letters

def readInt (letters : List Letter) : Except Fault Int := do
  let (negative, size) ← signed (unlined letters)
  let n ← sizeOfInt size
  return if negative then -n else n

/-- A power of sixty. The largest double is less than the hundred and seventy-fourth. -/
def powerOfSixty (power : Nat) : Except Fault Double :=
  let x := Double.ofDecimal (Nat.pow 60 power) 0
  if x = Double.infinity then .error .overflow else .ok x

/-- The sum of doubles, each weighed by sixty as often as there are others after it. It is formed
from the last one on. -/
def sexagesimal (digits : List Double) : Except Fault Double := do
  let sum ← digits.reverse.zipIdx.foldlM (fun total (digit, power) => do
    return total + Float.ofBits digit.bits * Float.ofBits (← powerOfSixty power).bits) (0.0 : Float)
  return { bits := sum.toBits }

def nanLetters : List Letter := Text.lettersOf ".nan"

def sizeOfDouble (letters : List Letter) : Except Fault Double := do
  if letters = Text.lettersOf ".inf" then return .infinity
  else if letters = nanLetters then return .nan
  else if letters.contains (.char ':') then
    sexagesimal (← (letters.splitOn (.char ':')).mapM Numeral.double)
  else Numeral.double letters

def readDouble (letters : List Letter) : Except Fault Double := do
  let (negative, size) ← signed (Text.lowerLetters (unlined letters))
  let x ← sizeOfDouble size
  return if negative then x.negate else x

def isNan (letters : List Letter) : Bool :=
  match signed (Text.lowerLetters (unlined letters)) with
  | .ok (_, size) => size = nanLetters
  | .error _ => false

def readMoment (letters : List Letter) : Except Fault Moment :=
  match (Text.charsOf? letters).bind fun chars => moment? (unended chars) with
  | none => .error .noAttribute
  | some moment =>
    match moment.fault? with
    | some message => .error (.badValue message)
    | none => .ok moment

def readBool (letters : List Letter) : Except Fault Bool :=
  match (Text.textOf? letters).map Text.lower with
  | some "yes" | some "true" | some "on" => .ok true
  | some "no" | some "false" | some "off" => .ok false
  | _ => .error .noKey

def readBytes (letters : List Letter) : Except Fault (List UInt8) :=
  match Text.textOf? letters with
  | none => .error .badYaml
  | some text =>
    match Text.Base64.decode? text with
    | some data => if text.toList.all (·.toNat < 0x80) then .ok data else .error .badYaml
    | none => .error .badYaml

def Kind.read (kind : Kind) (letters : List Letter) : Except Fault Value :=
  match kind with
  | .null => .ok .null
  | .bool => (readBool letters).map .bool
  | .int => (readInt letters).map .int
  | .float => (readDouble letters).map .float
  | .moment => (readMoment letters).map .moment
  | .binary => (readBytes letters).map .bytes
  | .str => .ok (.ofLetters letters)
  | _ => .error .badYaml

end Gatekeeper.Document.Yaml
