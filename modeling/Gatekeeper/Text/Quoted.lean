import Gatekeeper.Text.Letter
import Gatekeeper.Text.Printable

/-! Quoted text. Single quotes are used unless the text holds some and no double ones; what cannot
be shown is written as an escape of two, four or eight hexadecimal digits. -/
namespace Gatekeeper.Text

def hexDigits (width code : Nat) : List Char :=
  let digits := Nat.toDigits 16 code
  List.replicate (width - digits.length) '0' ++ digits

def quoteFor (chars : List Char) : Char :=
  if chars.contains '\'' && !chars.contains '"' then '"' else '\''

def escape (quote char : Char) : List Char :=
  if char = quote ∨ char = '\\' then ['\\', char]
  else if char = '\n' then ['\\', 'n']
  else if char = '\r' then ['\\', 'r']
  else if char = '\t' then ['\\', 't']
  else if isPrintable char then [char]
  else if char.toNat < 0x100 then '\\' :: 'x' :: hexDigits 2 char.toNat
  else if char.toNat < 0x10000 then '\\' :: 'u' :: hexDigits 4 char.toNat
  else '\\' :: 'U' :: hexDigits 8 char.toNat

def quotedChars (chars : List Char) : List Char :=
  let quote := quoteFor chars
  quote :: chars.flatMap (escape quote) ++ [quote]

def quoted (text : String) : String :=
  String.ofList (quotedChars text.toList)

def escapeLetter (quote : Char) : Letter → List Char
  | .char char => escape quote char
  | .half code => '\\' :: 'u' :: hexDigits 4 code

def quotedLetters (letters : List Letter) : List Char :=
  let quote := quoteFor (letters.filterMap Letter.char?)
  quote :: letters.flatMap (escapeLetter quote) ++ [quote]

/-- Bytes are quoted as the characters of their codes, of which only those of ASCII are shown. -/
def quotedBytes (data : List UInt8) : String :=
  let chars := data.map fun byte => Char.ofNat byte.toNat
  let quote := quoteFor chars
  let shown := chars.flatMap fun char =>
    if 0x7F < char.toNat then '\\' :: 'x' :: hexDigits 2 char.toNat else escape quote char
  String.ofList ('b' :: quote :: shown ++ [quote])

end Gatekeeper.Text
