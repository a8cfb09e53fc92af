import Gatekeeper.Fault
import Gatekeeper.Text.Blank
import Gatekeeper.Text.Digit

/-! Numbers as the texts of a file spell them. Around a number there may be spaces, and its digits
may be those of any script. -/
namespace Gatekeeper.Document.Numeral

open Number
open Text (Letter)

def hexDigit? (char : Char) : Option Nat :=
  if char.isDigit then some (char.toNat - '0'.toNat)
  else if 'a' ≤ char ∧ char ≤ 'f' then some (char.toNat - 'a'.toNat + 10)
  else if 'A' ≤ char ∧ char ≤ 'F' then some (char.toNat - 'A'.toNat + 10)
  else none

def value (base : Nat) (digits : List Char) : Nat :=
  digits.foldl (fun total digit => base * total + (hexDigit? digit).getD 0) 0

def isSpace (char : Char) : Bool :=
  char == ' ' || ('\t' ≤ char && char ≤ '\r')

def trimLeft (chars : List Char) : List Char :=
  chars.dropWhile isSpace

def trim (chars : List Char) : List Char :=
  (trimLeft (trimLeft chars).reverse).reverse

/-- A text in ASCII: blanks become spaces and digits of other scripts those of ASCII. A text ends at
a letter that has no place in a number, with a mark that has none either. -/
def spelled : List Letter → List Char
  | [] => []
  | .half _ :: _ => ['?']
  | .char char :: rest =>
    if char.toNat < 0x7F then char :: spelled rest
    else if Text.isBlank char then ' ' :: spelled rest
    else
      match Text.decimal? char with
      | some digit => Char.ofNat ('0'.toNat + digit) :: spelled rest
      | none => ['?']

def sign : List Char → Bool × List Char
  | '-' :: rest => (true, rest)
  | '+' :: rest => (false, rest)
  | chars => (false, chars)

def unmarked (base : Nat) (digits : List Char) : List Char :=
  match base, digits with
  | 2, '0' :: 'b' :: rest | 2, '0' :: 'B' :: rest => rest
  | 8, '0' :: 'o' :: rest | 8, '0' :: 'O' :: rest => rest
  | 16, '0' :: 'x' :: rest | 16, '0' :: 'X' :: rest => rest
  | _, _ => digits

def digit? (base : Nat) (char : Char) : Option Nat :=
  (hexDigit? char).filter (· < base)

def maxShown : Nat := 200

/-- The integer that a text spells to a base, which is two, eight, ten or sixteen. The digits of a
decimal integer are limited. -/
def whole (base : Nat) (letters : List Letter) : Except Fault Int :=
  let (negative, size) := sign (trimLeft (spelled letters))
  let size := unmarked base size
  let digits := size.takeWhile fun char => (digit? base char).isSome
  if base = 10 ∧ Value.maxDigits < digits.length then
    .error (.badValue (Fault.unreadable digits.length))
  else if digits.isEmpty || !(size.drop digits.length).all isSpace then
    .error (.badValue ("invalid literal for int() with base " ++ toString base ++ ": " ++
      String.ofList ((Text.quotedLetters letters).take maxShown)))
  else
    let size : Int := value base digits
    .ok (if negative then -size else size)

def double (letters : List Letter) : Except Fault Double :=
  match Double.read? (String.ofList (trim (spelled letters))) with
  | some x => .ok x
  | none =>
    .error (.badValue ("could not convert string to float: " ++
      String.ofList (Text.quotedLetters letters)))

end Gatekeeper.Document.Numeral
