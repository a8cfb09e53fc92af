import Gatekeeper.Document.Json
import Gatekeeper.Text.Case
import Gatekeeper.Text.Utf8

/-! Configuration files. The last part of a file's name tells its format; the file holds one table,
or nothing. JSON is read here. A reader of YAML is a library of its own, which a host brings along;
it is given the text of a file and may find any value in it, or any fault. -/
namespace Gatekeeper.Document

inductive Entry where
  | missing
  | directory
  | file (content : List UInt8)

/-- A file opened as a text: its characters as far as they can be read, and why it breaks off there
if it does. -/
structure Stream where
  chars : List Char
  fault : Option Fault

inductive Format where
  | json
  | yaml
deriving DecidableEq, Repr

def baseName (path : String) : List Char :=
  ((path.toList.splitOn '/').filter fun part => !part.isEmpty && part != ['.']).getLast?.getD []

/-- What follows the last point of a name, with the point. A point at the very start or end does not
count. -/
def extension (path : String) : String :=
  let name := baseName path
  let after := (name.reverse.takeWhile (· != '.')).reverse
  if after.isEmpty || name.length ≤ after.length + 1 then ""
  else String.ofList ('.' :: after)

def format? (extension : String) : Option Format :=
  match extension with
  | ".json" => some .json
  | ".yaml" | ".yml" => some .yaml
  | _ => none

def unixLines : List Char → List Char
  | '\r' :: '\n' :: rest => '\n' :: unixLines rest
  | '\r' :: rest => '\n' :: unixLines rest
  | char :: rest => char :: unixLines rest
  | [] => []

def block : Nat := 8192

/-- What can be read of a text that breaks off. A return at its end may belong to a line feed that
would come next, so it is left out. -/
def brokenLines (chars : List Char) : List Char :=
  unixLines (if chars.getLast? = some '\r' then chars.dropLast else chars)

def stream (content : List UInt8) : Stream :=
  let start := Text.Utf8.start block content
  if start.whole then ⟨unixLines start.chars, none⟩
  else ⟨brokenLines start.chars, some .badEncoding⟩

/-- Reads the text of a file. JSON is read as a whole; a reader of YAML may find something wrong with
the start of a text before it comes to where it breaks off. -/
def read (yaml : Stream → Except Fault Value) (format : Format) (stream : Stream) :
    Except Fault Value :=
  match format with
  | .yaml => yaml stream
  | .json =>
    match stream.fault with
    | none => Json.read (String.ofList stream.chars)
    | some fault => .error fault

def load (yaml : Stream → Except Fault Value) (name : String) : Entry → Except Fault Table
  | .missing => .error (.noFile name)
  | .directory => .error .isDirectory
  | .file content => do
    let extension := Text.lower (extension name)
    let some format := format? extension | throw (.unknownFormat extension)
    match (← read yaml format (stream content)).opened with
    | .null => return []
    | .table entries => return entries
    | _ => throw (.notMapping name)

end Gatekeeper.Document
