import Gatekeeper.Text.Quoted

/-! Locations in the headers of answers. Characters that may stand in an address stay, and the bytes
of all others are written in hexadecimal. -/
namespace Gatekeeper.Web

def addressMarks : List Char :=
  ":/%#?=@[]!$&'()*+,;".toList

def isAddressChar (char : Char) : Bool :=
  char.isAlphanum || "_.-~".toList.contains char || addressMarks.contains char

def encodedByte (byte : UInt8) : List Char :=
  '%' :: (Text.hexDigits 2 byte.toNat).map Char.toUpper

def location (target : String) : String :=
  String.ofList (target.toList.flatMap fun char =>
    if isAddressChar char then [char]
    else (String.singleton char).toUTF8.toList.flatMap encodedByte)

end Gatekeeper.Web
