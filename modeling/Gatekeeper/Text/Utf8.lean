/-! Texts as bytes in UTF-8. A character takes one to four bytes. Its first byte tells their number
and narrows the second one, so that no character has two spellings and no half of a character has
any. -/
namespace Gatekeeper.Text.Utf8

/-- A character of which bytes are still to come: the value of those before, the number of those to
come, and the bounds of the next one. -/
structure Begun where
  value : Nat
  missing : Nat
  low : Nat := 0x80
  high : Nat := 0xBF

def begin? (byte : Nat) : Option Begun :=
  if 0xC2 ≤ byte ∧ byte < 0xE0 then some { value := byte - 0xC0, missing := 1 }
  else if 0xE0 ≤ byte ∧ byte < 0xF0 then
    some {
      value := byte - 0xE0
      missing := 2
      low := if byte = 0xE0 then 0xA0 else 0x80
      high := if byte = 0xED then 0x9F else 0xBF }
  else if 0xF0 ≤ byte ∧ byte < 0xF5 then
    some {
      value := byte - 0xF0
      missing := 3
      low := if byte = 0xF0 then 0x90 else 0x80
      high := if byte = 0xF4 then 0x8F else 0xBF }
  else none

structure Reading where
  chars : List Char := []
  begun : Option Begun := none
  place : Nat := 0

namespace Reading

def feed (reading : Reading) (byte : UInt8) : Except Nat Reading :=
  let byte := byte.toNat
  let place := reading.place + 1
  match reading.begun with
  | none =>
    if byte < 0x80 then .ok ⟨Char.ofNat byte :: reading.chars, none, place⟩
    else
      match begin? byte with
      | some begun => .ok ⟨reading.chars, some begun, place⟩
      | none => .error reading.place
  | some begun =>
    if byte < begun.low ∨ begun.high < byte then .error reading.place
    else
      let value := begun.value * 0x40 + (byte - 0x80)
      if begun.missing = 1 then .ok ⟨Char.ofNat value :: reading.chars, none, place⟩
      else .ok ⟨reading.chars, some { value := value, missing := begun.missing - 1 }, place⟩

end Reading

def read (bytes : List UInt8) : Except Nat Reading :=
  bytes.foldlM Reading.feed {}

structure Start where
  chars : List Char
  whole : Bool

/-- The characters of a text that is read in blocks. Of a block with a byte that cannot stand where
it stands, nothing is read. -/
def start (block : Nat) (bytes : List UInt8) : Start :=
  match read bytes with
  | .ok reading => ⟨reading.chars.reverse, reading.begun.isNone⟩
  | .error place =>
    match read (bytes.take (place / block * block)) with
    | .ok reading => ⟨reading.chars.reverse, false⟩
    | .error _ => ⟨[], false⟩

end Gatekeeper.Text.Utf8
