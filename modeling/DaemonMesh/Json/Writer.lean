import DaemonMesh.Json.Tree

namespace DaemonMesh

/-- Quote and backslash, and the control characters in their short form or by number, are
escaped; everything else stands as it is. -/
def writtenChar (c : Char) : List Char :=
  if c = '"' then ['\\', '"']
  else if c = '\\' then ['\\', '\\']
  else if c = '\x08' then ['\\', 'b']
  else if c = '\x0c' then ['\\', 'f']
  else if c = '\n' then ['\\', 'n']
  else if c = '\r' then ['\\', 'r']
  else if c = '\t' then ['\\', 't']
  else if c.toNat < 0x20 then
    ['\\', 'u', '0', '0', Nat.digitChar (c.toNat / 16), Nat.digitChar (c.toNat % 16)]
  else [c]

def writtenUnit (unit : UInt16) : List Char :=
  let n := unit.toNat
  ['\\', 'u', Nat.digitChar (n / 4096), Nat.digitChar (n / 256 % 16), Nat.digitChar (n / 16 % 16),
    Nat.digitChar (n % 16)]

def writtenPiece : StringPiece → List Char
  | .char c => writtenChar c
  | .unit value => writtenUnit value

def writtenString (pieces : List StringPiece) : String :=
  String.ofList (['"'] ++ pieces.flatMap writtenPiece ++ ['"'])

namespace Json

def writtenScalar : Json → String
  | null => "null"
  | bool true => "true"
  | bool false => "false"
  | natural value => toString value
  | number written => written
  | string pieces => writtenString pieces
  | array _ => "[]"
  | object _ => "\x7b\x7d"

mutual

/-- On one line, without any blank. -/
def compact : Json → String
  | array items => "[" ++ compactItems items ++ "]"
  | object members => "\x7b" ++ compactMembers members ++ "\x7d"
  | scalar => scalar.writtenScalar

def compactItems : List Json → String
  | [] => ""
  | [item] => item.compact
  | item :: rest => item.compact ++ "," ++ compactItems rest

def compactMember : List StringPiece × Json → String
  | (key, value) => writtenString key ++ ":" ++ value.compact

def compactMembers : List (List StringPiece × Json) → String
  | [] => ""
  | [member] => compactMember member
  | member :: rest => compactMember member ++ "," ++ compactMembers rest

end

def lineAt (depth : Nat) : String := "\n" ++ String.ofList (List.replicate (2 * depth) ' ')

mutual

/-- On lines of their own, items and members are indented by two spaces a level. Empty containers
stay closed. -/
def indented (depth : Nat) : Json → String
  | array (item :: rest) =>
    "[" ++ indentedItems (depth + 1) (item :: rest) ++ lineAt depth ++ "]"
  | object (member :: rest) =>
    "\x7b" ++ indentedMembers (depth + 1) (member :: rest) ++ lineAt depth ++ "\x7d"
  | scalar => scalar.writtenScalar

def indentedItems (depth : Nat) : List Json → String
  | [] => ""
  | [item] => lineAt depth ++ indented depth item
  | item :: rest => lineAt depth ++ indented depth item ++ "," ++ indentedItems depth rest

def indentedMember (depth : Nat) : List StringPiece × Json → String
  | (key, value) => lineAt depth ++ writtenString key ++ ": " ++ indented depth value

def indentedMembers (depth : Nat) : List (List StringPiece × Json) → String
  | [] => ""
  | [member] => indentedMember depth member
  | member :: rest => indentedMember depth member ++ "," ++ indentedMembers depth rest

end

end Json

end DaemonMesh
