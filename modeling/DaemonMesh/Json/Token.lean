import DaemonMesh.Json.Tree
import DaemonMesh.Text.Characters

namespace DaemonMesh

inductive Token
  | openObject
  | closeObject
  | openArray
  | closeArray
  | colon
  | comma
  | scalar (value : Json)

def isJsonBlank (c : Char) : Bool := c == ' ' || c == '\t' || c == '\n' || c == '\r'

def unit? (a b c d : Char) : Option StringPiece := do
  let a ← hexValue? a
  let b ← hexValue? b
  let c ← hexValue? c
  let d ← hexValue? d
  some (.unit (UInt16.ofNat (((a * 16 + b) * 16 + c) * 16 + d)))

/-- The character behind a backslash, where it is not a unit's number. -/
def escapedChar? : Char → Option Char
  | '"' => some '"'
  | '\\' => some '\\'
  | '/' => some '/'
  | 'b' => some '\x08'
  | 'f' => some '\x0c'
  | 'n' => some '\n'
  | 'r' => some '\r'
  | 't' => some '\t'
  | _ => none

/-- Reads a string behind its opening quote, up to and with its closing quote. A control
character must be escaped. -/
def readString : List Char → Option (List StringPiece × List Char)
  | [] => none
  | '"' :: rest => some ([], rest)
  | '\\' :: 'u' :: a :: b :: c :: d :: rest => do
    let piece ← unit? a b c d
    let (pieces, rest) ← readString rest
    some (piece :: pieces, rest)
  | '\\' :: escape :: rest => do
    let c ← escapedChar? escape
    let (pieces, rest) ← readString rest
    some (.char c :: pieces, rest)
  | c :: rest =>
    if c.toNat < 0x20 then none
    else do
      let (pieces, rest) ← readString rest
      some (.char c :: pieces, rest)

/-- At least one digit, as many as there are. -/
def readDigits? (text : List Char) : Option (List Char × List Char) :=
  match text.takeWhile Char.isDigit with
  | [] => none
  | digits => some (digits, text.dropWhile Char.isDigit)

/-- Digits without a needless zero in front. -/
def readWhole? (text : List Char) : Option (List Char × List Char) := do
  let (digits, rest) ← readDigits? text
  if digits.head? == some '0' && 1 < digits.length then none else some (digits, rest)

/-- The fraction, if a point stands here. -/
def readFraction? : List Char → Option (List Char × List Char)
  | '.' :: rest => do
    let (digits, rest) ← readDigits? rest
    some ('.' :: digits, rest)
  | rest => some ([], rest)

/-- The exponent, if its letter stands here. -/
def readExponent? : List Char → Option (List Char × List Char)
  | 'e' :: rest | 'E' :: rest =>
    let (sign, rest) := match rest with
      | '+' :: rest => (['+'], rest)
      | '-' :: rest => (['-'], rest)
      | rest => ([], rest)
    do
      let (digits, rest) ← readDigits? rest
      some ('e' :: sign ++ digits, rest)
  | rest => some ([], rest)

def readNumber? (text : List Char) : Option (Json × List Char) := do
  let (sign, text) := match text with
    | '-' :: rest => (['-'], rest)
    | rest => ([], rest)
  let (whole, text) ← readWhole? text
  let (fraction, text) ← readFraction? text
  let (exponent, text) ← readExponent? text
  if sign.isEmpty && fraction.isEmpty && exponent.isEmpty then
    some (.natural (digitsValue whole), text)
  else some (.number (String.ofList (sign ++ whole ++ fraction ++ exponent)), text)

/-- Reads one token from a text that starts with no blank. -/
def readToken? : List Char → Option (Token × List Char)
  | '\x7b' :: rest => some (.openObject, rest)
  | '\x7d' :: rest => some (.closeObject, rest)
  | '[' :: rest => some (.openArray, rest)
  | ']' :: rest => some (.closeArray, rest)
  | ':' :: rest => some (.colon, rest)
  | ',' :: rest => some (.comma, rest)
  | 'n' :: 'u' :: 'l' :: 'l' :: rest => some (.scalar .null, rest)
  | 't' :: 'r' :: 'u' :: 'e' :: rest => some (.scalar (.bool true), rest)
  | 'f' :: 'a' :: 'l' :: 's' :: 'e' :: rest => some (.scalar (.bool false), rest)
  | '"' :: rest => do
    let (pieces, rest) ← readString rest
    some (.scalar (.string pieces), rest)
  | text => do
    let (number, rest) ← readNumber? text
    some (.scalar number, rest)

/-- Every step takes at least one character, so the length of the text is enough steps. -/
def readTokens : Nat → List Char → Option (List Token)
  | _, [] => some []
  | 0, _ :: _ => none
  | steps + 1, c :: rest =>
    if isJsonBlank c then readTokens steps rest
    else do
      let (token, rest) ← readToken? (c :: rest)
      let tokens ← readTokens steps rest
      some (token :: tokens)

def tokens? (text : List Char) : Option (List Token) := readTokens text.length text

end DaemonMesh
