namespace DaemonMesh

/-- One step of a written string: a character as it stands, or a sixteen-bit unit given by its
number. Units are kept as written, because a lone half of a pair is well formed as long as
nobody asks for the text. -/
inductive StringPiece
  | char (c : Char)
  | unit (value : UInt16)
deriving DecidableEq, Repr

/-- A document. A natural number has neither sign nor fraction nor exponent; every other number
is kept as it was written. Members stand in written order and may repeat. -/
inductive Json
  | null
  | bool (value : Bool)
  | natural (value : Nat)
  | number (written : String)
  | string (pieces : List StringPiece)
  | array (items : List Json)
  | object (members : List (List StringPiece × Json))

def isHighSurrogate (unit : UInt16) : Bool := 0xD800 ≤ unit && unit < 0xDC00

def isLowSurrogate (unit : UInt16) : Bool := 0xDC00 ≤ unit && unit < 0xE000

def pairedChar (high low : UInt16) : Char :=
  Char.ofNat (0x10000 + (high.toNat - 0xD800) * 0x400 + (low.toNat - 0xDC00))

/-- The characters that the pieces spell. A high half must be followed at once by a low half, and
a low half must not stand alone. -/
def pieceChars? : List StringPiece → Option (List Char)
  | [] => some []
  | .char c :: rest => (c :: ·) <$> pieceChars? rest
  | .unit high :: .unit low :: rest =>
    if isHighSurrogate high then
      if isLowSurrogate low then (pairedChar high low :: ·) <$> pieceChars? rest else none
    else if isLowSurrogate high then none
    else (Char.ofNat high.toNat :: ·) <$> pieceChars? (.unit low :: rest)
  | .unit value :: rest =>
    if isHighSurrogate value || isLowSurrogate value then none
    else (Char.ofNat value.toNat :: ·) <$> pieceChars? rest

def pieceText? (pieces : List StringPiece) : Option String := String.ofList <$> pieceChars? pieces

def textPieces (text : String) : List StringPiece := text.toList.map .char

theorem pieceChars?_char (chars : List Char) : pieceChars? (chars.map .char) = some chars := by
  induction chars with
  | nil => rfl
  | cons c rest ih => simp [pieceChars?, ih]

theorem pieceText?_textPieces (text : String) : pieceText? (textPieces text) = some text := by
  simp [pieceText?, textPieces, pieceChars?_char]

namespace Json

def text (value : String) : Json := string (textPieces value)

def members (entries : List (String × Json)) : Json :=
  object (entries.map fun entry => (textPieces entry.1, entry.2))

def text? : Json → Option String
  | string pieces => pieceText? pieces
  | _ => none

def bool? : Json → Option Bool
  | bool value => some value
  | _ => none

def natural? : Json → Option Nat
  | natural value => some value
  | _ => none

/-- A natural number that is less than the bound. -/
def naturalBelow? (bound : Nat) (json : Json) : Option Nat := do
  let value ← json.natural?
  if value < bound then some value else none

def array? : Json → Option (List Json)
  | array items => some items
  | _ => none

end Json

end DaemonMesh
