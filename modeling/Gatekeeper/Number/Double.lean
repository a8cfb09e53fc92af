import Gatekeeper.Number.Shortest

/-! Double precision numbers, kept as their 64 bits. They are compared exactly and written with the
fewest digits that identify them. A number that is undefined equals nothing, but it is still the
same as itself. -/
namespace Gatekeeper.Number

structure Double where
  bits : UInt64
  /-- Tells two undefined numbers apart; of others it says nothing. -/
  id : Nat := 0
deriving DecidableEq, Repr

inductive Quantity where
  | finite (mantissa : Int) (exponent : Int)
  | infinite (negative : Bool)
  | undefined (id : Nat)

namespace Quantity

def ofInt (n : Int) : Quantity := .finite n 0

def same : Quantity → Quantity → Bool
  | .finite a i, .finite b j =>
    a * Int.pow 2 (i - min i j).toNat == b * Int.pow 2 (j - min i j).toNat
  | .infinite a, .infinite b => a == b
  | .undefined a, .undefined b => a == b
  | _, _ => false

def isUndefined : Quantity → Bool
  | .undefined _ => true
  | _ => false

def isZero : Quantity → Bool
  | .finite a _ => a == 0
  | _ => false

end Quantity

namespace Double

def infinity : Double := { bits := 0x7FF0000000000000 }

def nan : Double := { bits := 0x7FF8000000000000 }

def zero : Double := { bits := 0 }

def negative (x : Double) : Bool := x.bits >>> 63 == 1

def negate (x : Double) : Double := { x with bits := x.bits ^^^ 0x8000000000000000 }

def biased (x : Double) : Nat := ((x.bits >>> 52) &&& 0x7FF).toNat

def fraction (x : Double) : Nat := (x.bits &&& 0xFFFFFFFFFFFFF).toNat

def magnitude (x : Double) : Binary :=
  if x.biased = 0 then ⟨x.fraction, -1074, false⟩
  else ⟨Nat.pow 2 52 + x.fraction, (x.biased : Int) - 1075, x.fraction == 0 && decide (1 < x.biased)⟩

def quantity (x : Double) : Quantity :=
  if x.biased = 0x7FF then
    if x.fraction = 0 then .infinite x.negative else .undefined x.id
  else
    let size := x.magnitude
    .finite (if x.negative then -size.mantissa else size.mantissa) size.exponent

def ofDecimal (digits : Nat) (exponent : Int) : Double :=
  let top := (Nat.toDigits 10 digits).length + exponent
  if digits = 0 ∨ top < -400 then zero
  else if top > 400 then infinity
  else { bits := (Float.ofScientific digits (decide (exponent < 0)) exponent.natAbs).toBits }

/-- Lays out a decimal: positional from `0.0001` up to sixteen digits before the point, and always
with a point; otherwise with an exponent of a sign and at least two digits. -/
def layout (d : Decimal) : String :=
  let digits := Nat.toDigits 10 d.digits
  let lead : Int := digits.length - 1 + d.exponent
  let zeros (n : Int) : List Char := List.replicate n.toNat '0'
  if -4 ≤ lead ∧ lead < 16 then
    if 0 ≤ d.exponent then String.ofList (digits ++ zeros d.exponent ++ ['.', '0'])
    else if 0 ≤ lead then
      let (whole, part) := digits.splitAt (lead + 1).toNat
      String.ofList (whole ++ '.' :: part)
    else String.ofList ('0' :: '.' :: zeros (-lead - 1) ++ digits)
  else
    let power := Nat.toDigits 10 lead.natAbs
    let point := if digits.length = 1 then [] else '.' :: digits.tail
    String.ofList (digits.take 1 ++ point ++ ['e', if lead < 0 then '-' else '+']
      ++ zeros (2 - power.length) ++ power)

def text (x : Double) : String :=
  match x.quantity with
  | .undefined _ => "nan"
  | .infinite negative => if negative then "-inf" else "inf"
  | .finite mantissa _ =>
    let sign := if x.negative then "-" else ""
    if mantissa = 0 then sign ++ "0.0" else sign ++ layout x.magnitude.shortest

end Double

def readDecimal? (chars : List Char) : Option (Nat × Int) := do
  let whole := chars.takeWhile Char.isDigit
  let rest := chars.dropWhile Char.isDigit
  let (part, rest) := match rest with
    | '.' :: rest => (rest.takeWhile Char.isDigit, rest.dropWhile Char.isDigit)
    | _ => ([], rest)
  guard !(whole.isEmpty && part.isEmpty)
  let power ← match rest with
    | [] => some 0
    | mark :: rest =>
      if mark = 'e' ∨ mark = 'E' then
        let (negative, digits) := match rest with
          | '-' :: digits => (true, digits)
          | '+' :: digits => (false, digits)
          | _ => (false, rest)
        if digits.isEmpty || !digits.all Char.isDigit then none
        else
          let size : Int := Nat.ofDigitChars 10 digits 0
          some (if negative then -size else size)
      else none
  return (Nat.ofDigitChars 10 (whole ++ part) 0, power - part.length)

def Double.read? (text : String) : Option Double :=
  let (negative, rest) := match text.toList with
    | '-' :: rest => (true, rest)
    | '+' :: rest => (false, rest)
    | rest => (false, rest)
  let size : Option Double := match (String.ofList rest).toLower with
    | "inf" | "infinity" => some Double.infinity
    | "nan" => some Double.nan
    | _ => (readDecimal? rest).map fun (digits, exponent) => Double.ofDecimal digits exponent
  size.map fun x => if negative then x.negate else x

end Gatekeeper.Number
