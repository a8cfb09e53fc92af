/-! Bytes written with sixty-four characters, four for three bytes. Other characters are passed
over, and equals signs fill the last four. -/
namespace Gatekeeper.Text.Base64

def digit? (char : Char) : Option Nat :=
  if 'A' ≤ char ∧ char ≤ 'Z' then some (char.toNat - 'A'.toNat)
  else if 'a' ≤ char ∧ char ≤ 'z' then some (char.toNat - 'a'.toNat + 26)
  else if char.isDigit then some (char.toNat - '0'.toNat + 52)
  else if char = '+' then some 62
  else if char = '/' then some 63
  else none

/-- Reads on with some digits of the current four, newest first, and the count of signs after. -/
def decodeFrom (digits : List Nat) (fillers : Nat) : List Char → Option (List UInt8)
  | [] => if digits.isEmpty then some [] else none
  | char :: rest =>
    if char = '=' then
      if 2 ≤ digits.length ∧ 4 ≤ digits.length + fillers + 1 then some []
      else decodeFrom digits (if 2 ≤ digits.length then fillers + 1 else fillers) rest
    else
      match digit? char, digits with
      | none, _ => decodeFrom digits fillers rest
      | some d, [] => decodeFrom [d] 0 rest
      | some d, [a] => (decodeFrom [d, a] 0 rest).map ((4 * a + d / 16).toUInt8 :: ·)
      | some d, [b, a] =>
        (decodeFrom [d, b, a] 0 rest).map ((16 * (b % 16) + d / 4).toUInt8 :: ·)
      | some d, c :: _ => (decodeFrom [] 0 rest).map ((64 * (c % 4) + d).toUInt8 :: ·)

def decode? (text : String) : Option (List UInt8) :=
  decodeFrom [] 0 text.toList

end Gatekeeper.Text.Base64
